import AlphaDecay.Foundation.KeyedSums
import AlphaDecay.Persistence.ExplainedChange
import AlphaDecay.Persistence.FinalRehearsal

/-!
# Which trades belong to a fill

Three rules decide whether new activities are the trades of an attempt. An expectation wants one
activity for each leg, with the quantity of the leg. The entry and the lifecycle of a position add
activities up leg by leg. `fillEvidence_agrees` says exactly when the rules agree: they differ
where activities add up to the legs without being one activity for each.
-/

namespace AlphaDecay

open Foundation Foundation.Decimal

/-! ## Matching activities with attempts -/

/-- What the sums of a matcher are kept under: client order, provider order and symbol. -/
abbrev FillKey := String × String × String

def legKey (attempt : OrderAttempt) (provider : String) (leg : OrderLegIntent) : FillKey :=
  (attempt.clientOrderId, provider, leg.symbol)

/-- The quantities that attempts trade, where every leg has an intent that counts. -/
def expectedFills (counts : PositionIntent → Bool) (legs : List OrderLegIntent) :
    List OrderAttempt → Option (List (FillKey × Decimal))
  | [] => some []
  | attempt :: attempts => do
      let provider ← attempt.providerOrderId
      if provider == "" || !legs.all (fun leg => counts leg.intent) then none
      else
        let rest ← expectedFills counts legs attempts
        return legs.map (fun leg =>
          (legKey attempt provider leg, signedChange attempt.filledQuantity leg)) ++ rest

/-- The key of an activity that names its orders and its symbol. -/
def activityKey (item : ActivityItem) : Option FillKey := do
  let client ← item.clientOrderId
  let provider ← item.providerOrderId
  let symbol ← item.symbol
  return (client, provider, symbol)

/-- The quantities that activities trade, where each has a hash of its own, an expected key and a
quantity other than zero. -/
def observedFills (expected : Dict FillKey Decimal) :
    List String → List ActivityItem → Except Failure (Option (List (FillKey × Decimal)))
  | _, [] => .ok (some [])
  | hashes, item :: rest => do
      let quantity ← require item.signedQuantity .arithmetic
      match (activityKey item).filter fun key => (expected.get key).isSome with
      | none => return none
      | some key =>
          if !isHash item.activityIdHash || hashes.contains item.activityIdHash ||
              quantity == Decimal.ofInt 0 then return none
          else
            let fills ← observedFills expected (item.activityIdHash :: hashes) rest
            return fills.map fun fills => (key, quantity) :: fills

/-- Activities add up to what attempts trade. -/
def fillsMatchAttempts (counts : PositionIntent → Bool) (activities : List ActivityItem)
    (attempts : List OrderAttempt) (legs : List OrderLegIntent) : Except Failure Bool :=
  match expectedFills counts legs attempts with
  | none => .ok false
  | some expected => do
      let observed ← observedFills (sumsBy expected) [] activities
      return observed.any fun observed => equalSums (sumsBy observed) (sumsBy expected)

def opensPosition (intent : PositionIntent) : Bool :=
  intent == .buyToOpen || intent == .sellToOpen

/-- The matcher of an entry, whose legs open. -/
def activitiesMatchAttempts (activities : List ActivityItem) (attempts : List OrderAttempt)
    (legs : List OrderLegIntent) : Except Failure Bool :=
  fillsMatchAttempts opensPosition activities attempts legs

/-- The matcher of a close or a roll. -/
def lifecycleActivitiesMatchAttempts (activities : List ActivityItem)
    (attempts : List OrderAttempt) (legs : List OrderLegIntent) : Except Failure Bool :=
  fillsMatchAttempts (fun _ => true) activities attempts legs

def actionMatchesAttempts (action : ExecutionAction) (activities : List ActivityItem)
    (attempts : List OrderAttempt) (legs : List OrderLegIntent) : Except Failure Bool :=
  if action = .entry then activitiesMatchAttempts activities attempts legs
  else lifecycleActivitiesMatchAttempts activities attempts legs

/-! ## What the rules ask for -/

section

variable {attempt : OrderAttempt} {legs : List OrderLegIntent} {new : List ActivityItem}
  {provider : String}

variable {symbol : String}

def tradedOf (new : List ActivityItem) (symbol : String) : List Decimal :=
  (new.filter fun item => item.symbol = some symbol).filterMap fun item => item.signedQuantity

/-- The quantities that an attempt trades of a symbol, leg by leg. -/
def dueOf (attempt : OrderAttempt) (legs : List OrderLegIntent) (symbol : String) :
    List Decimal :=
  (legs.filter fun leg => leg.symbol = symbol).map (signedChange attempt.filledQuantity)

structure TradesOf (attempt : OrderAttempt) (legs : List OrderLegIntent)
    (new : List ActivityItem) : Prop where
  provider : ∀ item ∈ new, item.providerOrderId = attempt.providerOrderId
  client : ∀ item ∈ new, item.clientOrderId = some attempt.clientOrderId
  symbol : ∀ item ∈ new, ∃ leg ∈ legs, item.symbol = some leg.symbol
  covered : ∀ leg ∈ legs, ∃ item ∈ new, item.symbol = some leg.symbol

/-- There is one activity for each symbol, with the quantity of its leg. -/
def OneForEach (attempt : OrderAttempt) (legs : List OrderLegIntent)
    (new : List ActivityItem) : Prop :=
  (new.map fun item => item.symbol).Nodup ∧ new.all (hasExpectedQuantity attempt legs) = true

/-- The activities of each symbol add up to the legs of it, in the arithmetic of decimals. The legs
of an entry open. -/
def AddUp (action : ExecutionAction) (attempt : OrderAttempt) (legs : List OrderLegIntent)
    (new : List ActivityItem) : Prop :=
  (action = .entry → ∀ leg ∈ legs, opensPosition leg.intent = true) ∧
    ∀ leg ∈ legs, (total (tradedOf new leg.symbol) == total (dueOf attempt legs leg.symbol)) = true

/-- New trades are bound to an attempt exactly when there is one for each leg. -/
theorem explainsFill_trades (hprovider : attempt.providerOrderId = some provider)
    (hfilled : 0 < attempt.filledQuantity)
    (htrades : ∀ item ∈ new, item.activityType = .fill ∨ item.activityType = .optrd) :
    explainsFill attempt legs new = true ↔
      TradesOf attempt legs new ∧ OneForEach attempt legs new := by
  have hlegs : ((legs.map OrderLegIntent.symbol).dedup.map some).Nodup :=
    (List.nodup_dedup _).map (Option.some_injective _)
  simp only [explainsFill_iff, hprovider, hfilled, Option.isSome_some, true_and, isTradeOf,
    Bool.and_eq_true, Bool.or_eq_true, beq_iff_eq]
  constructor
  · rintro ⟨hall, hcount, hlength, hquantities⟩
    have hnodup : (new.map fun item => item.symbol).Nodup := by
      have hself := (List.dedup_sublist (new.map fun item => item.symbol)).eq_of_length
        (by rw [hlength, List.length_map])
      exact hself ▸ List.nodup_dedup _
    have hsubset : (new.map fun item => item.symbol) ⊆
        (legs.map OrderLegIntent.symbol).dedup.map some := by
      intro symbol hsymbol
      obtain ⟨item, hitem, rfl⟩ := List.mem_map.mp hsymbol
      obtain ⟨leg, hleg, heq⟩ := hasExpectedQuantity_symbol (hquantities item hitem)
      rw [heq]
      exact List.mem_map_of_mem (List.mem_dedup.mpr (List.mem_map_of_mem hleg))
    -- as many symbols as legs have, all among them: no leg is left out
    have hperm := (List.subperm_of_subset hnodup hsubset).perm_of_length_le
      (by rw [List.length_map, List.length_map, hcount])
    refine ⟨⟨?_, ?_, ?_, ?_⟩, hnodup, List.all_eq_true.mpr hquantities⟩
    · intro item hitem
      exact ((hall item hitem).1.2).trans hprovider.symm
    · intro item hitem
      exact (hall item hitem).2
    · intro item hitem
      exact hasExpectedQuantity_symbol (hquantities item hitem)
    · intro leg hleg
      have hmem := hperm.mem_iff.mpr (List.mem_map_of_mem
        (List.mem_dedup.mpr (List.mem_map_of_mem (f := OrderLegIntent.symbol) hleg)))
      obtain ⟨item, hitem, heq⟩ := List.mem_map.mp hmem
      exact ⟨item, hitem, heq⟩
  · rintro ⟨⟨hprovided, hclient, hsymbol, hcovered⟩, hnodup, hquantities⟩
    have hperm : (new.map fun item => item.symbol).Perm
        ((legs.map OrderLegIntent.symbol).dedup.map some) := by
      refine (List.perm_ext_iff_of_nodup hnodup hlegs).mpr fun symbol => ?_
      constructor
      · intro hmem
        obtain ⟨item, hitem, rfl⟩ := List.mem_map.mp hmem
        obtain ⟨leg, hleg, heq⟩ := hsymbol item hitem
        rw [heq]
        exact List.mem_map_of_mem (List.mem_dedup.mpr (List.mem_map_of_mem hleg))
      · intro hmem
        obtain ⟨name, hname, rfl⟩ := List.mem_map.mp hmem
        obtain ⟨leg, hleg, rfl⟩ := List.mem_map.mp (List.mem_dedup.mp hname)
        obtain ⟨item, hitem, heq⟩ := hcovered leg hleg
        exact List.mem_map.mpr ⟨item, hitem, heq⟩
    have hlength := hperm.length_eq
    rw [List.length_map, List.length_map] at hlength
    refine ⟨?_, hlength, ?_, List.all_eq_true.mp hquantities⟩
    · intro item hitem
      exact ⟨⟨htrades item hitem, (hprovided item hitem).trans hprovider⟩, hclient item hitem⟩
    · rw [hnodup.dedup, List.length_map]

/-! ## What the matchers ask for -/

/-- A trade has the text of a digest as its hash, and a quantity other than zero. -/
theorem traded_facts {item : ActivityItem}
    (h : item.activityType = .fill ∨ item.activityType = .optrd) :
    isHash item.activityIdHash = true ∧
      ∃ quantity, item.signedQuantity = some quantity ∧ (quantity == Decimal.ofInt 0) = false := by
  have hvalid := item.valid
  simp only [ActivityItemFields.postInit, check_bind_ok, requireHash, raiseIf_ok] at hvalid
  obtain ⟨hhash, -, -, -, -, -, hmoves⟩ := hvalid
  have htype : item.activityType.movesQuantity = true := by
    rcases h with h | h <;> rw [h] <;> rfl
  rw [htype, Bool.true_and, Bool.or_eq_false_iff] at hmoves
  refine ⟨by simpa using hhash, ?_⟩
  cases hquantity : item.signedQuantity with
  | none => simp [hquantity] at hmoves
  | some quantity => exact ⟨quantity, rfl, by simpa [hquantity] using hmoves.2⟩

/-- An activity with its key and its quantity. -/
def entryOf (item : ActivityItem) : Option (FillKey × Decimal) := do
  let key ← activityKey item
  let quantity ← item.signedQuantity
  return (key, quantity)

/-- Trades with hashes of their own are observed when each has an expected key. -/
theorem observedFills_ok {expected : Dict FillKey Decimal} {hashes : List String}
    (hfresh : ∀ item ∈ new, item.activityIdHash ∉ hashes)
    (hdistinct : (activityHashes new).Nodup)
    (htrades : ∀ item ∈ new, item.activityType = .fill ∨ item.activityType = .optrd) :
    ∃ fills, observedFills expected hashes new = .ok fills ∧ ∀ found, fills = some found ↔
      (∀ item ∈ new, ∃ key ∈ activityKey item, (expected.get key).isSome = true) ∧
        found = new.filterMap entryOf := by
  induction new generalizing hashes with
  | nil =>
      refine ⟨some [], rfl, fun found => ?_⟩
      rw [Option.some.injEq]
      constructor
      · rintro rfl
        exact ⟨fun item hitem => absurd hitem List.not_mem_nil, rfl⟩
      · rintro ⟨-, rfl⟩
        rfl
  | cons item rest ih =>
      obtain ⟨hhash, quantity, hquantity, hzero⟩ := traded_facts (htrades item List.mem_cons_self)
      have hnew : hashes.contains item.activityIdHash = false := by
        simpa using hfresh item List.mem_cons_self
      rw [activityHashes, List.map_cons, List.nodup_cons] at hdistinct
      rw [observedFills, hquantity, require_some, ok_bind]
      cases hkey : (activityKey item).filter fun key => (expected.get key).isSome with
      | none =>
          refine ⟨none, rfl, fun found => ?_⟩
          constructor
          · intro h
            cases h
          · rintro ⟨hall, -⟩
            obtain ⟨key, hmem, hsome⟩ := hall item List.mem_cons_self
            rw [hmem, Option.filter_some, if_pos hsome] at hkey
            cases hkey
      | some key =>
          obtain ⟨hmem, hsome⟩ := Option.filter_eq_some_iff.mp hkey
          obtain ⟨fills, hfills, hspec⟩ := @ih (item.activityIdHash :: hashes)
            (by
              intro other hother hseen
              rcases List.mem_cons.mp hseen with heq | hseen
              · exact hdistinct.1 (heq ▸ List.mem_map_of_mem hother)
              · exact hfresh other (List.mem_cons_of_mem _ hother) hseen)
            hdistinct.2 (fun other hother => htrades other (List.mem_cons_of_mem _ hother))
          refine ⟨fills.map fun fills => (key, quantity) :: fills, ?_, fun found => ?_⟩
          · simp only [hhash, hnew, hzero, Bool.not_true, Bool.or_false, Bool.false_eq_true,
              if_false, hfills, ok_bind]
            rfl
          · have hentry : entryOf item = some (key, quantity) := by
              rw [entryOf, hmem, hquantity]
              rfl
            have hhere : ∃ key ∈ activityKey item, (expected.get key).isSome = true :=
              ⟨key, hmem, hsome⟩
            rw [Option.map_eq_some_iff, List.filterMap_cons, hentry, List.forall_mem_cons]
            simp only [hspec, hhere, true_and]
            constructor
            · rintro ⟨_, ⟨hall, rfl⟩, rfl⟩
              exact ⟨hall, rfl⟩
            · rintro ⟨hall, rfl⟩
              exact ⟨_, ⟨hall, rfl⟩, rfl⟩

/-- The amounts of a leg are the quantities that are due of its symbol. -/
theorem amountsOf_legs (provider symbol : String) :
    amountsOf (attempt.clientOrderId, provider, symbol) (legs.map fun leg =>
      (legKey attempt provider leg, signedChange attempt.filledQuantity leg)) =
        dueOf attempt legs symbol := by
  induction legs with
  | nil => rfl
  | cons leg legs ih =>
      rw [amountsOf, dueOf] at ih ⊢
      by_cases hsymbol : leg.symbol = symbol
      · simp [legKey, hsymbol] at ih ⊢
        exact ih
      · simpa [legKey, hsymbol] using ih

/-- The amounts of trades of an order are the quantities that are traded of their symbol. -/
theorem amountsOf_activities (hprovided : ∀ item ∈ new, item.providerOrderId = some provider)
    (hclient : ∀ item ∈ new, item.clientOrderId = some attempt.clientOrderId) :
    amountsOf (attempt.clientOrderId, provider, symbol) (new.filterMap entryOf) =
      tradedOf new symbol := by
  induction new with
  | nil => rfl
  | cons item rest ih =>
      rw [List.forall_mem_cons] at hprovided hclient
      have hrest := ih hprovided.2 hclient.2
      rw [amountsOf, tradedOf] at hrest ⊢
      have hentry : entryOf item = (item.symbol.bind fun symbol => item.signedQuantity.map
          fun quantity => ((attempt.clientOrderId, provider, symbol), quantity)) := by
        rw [entryOf, activityKey, hprovided.1, hclient.1]
        cases item.symbol <;> cases item.signedQuantity <;> rfl
      cases hsymbol : item.symbol with
      | none => simpa [hentry, hsymbol] using hrest
      | some other =>
          cases hquantity : item.signedQuantity with
          | none =>
              by_cases hsame : other = symbol <;>
                simpa [hentry, hsymbol, hquantity, hsame] using hrest
          | some quantity =>
              by_cases hsame : other = symbol <;>
                simpa [hentry, hsymbol, hquantity, hsame] using hrest

theorem activityKey_eq_some {item : ActivityItem} {client : String} :
    activityKey item = some (client, provider, symbol) ↔
      item.clientOrderId = some client ∧ item.providerOrderId = some provider ∧
        item.symbol = some symbol := by
  rw [activityKey]
  cases item.clientOrderId <;> cases item.providerOrderId <;> cases item.symbol <;> simp

/-- Activities have the keys of legs when they are of the order and trade symbols of the legs. -/
theorem keyed_iff (hprovider : attempt.providerOrderId = some provider) :
    (∀ item ∈ new, ∃ leg ∈ legs, activityKey item = some (legKey attempt provider leg)) ↔
      (∀ item ∈ new, item.providerOrderId = attempt.providerOrderId) ∧
        (∀ item ∈ new, item.clientOrderId = some attempt.clientOrderId) ∧
        ∀ item ∈ new, ∃ leg ∈ legs, item.symbol = some leg.symbol := by
  simp only [legKey, activityKey_eq_some, hprovider]
  constructor
  · intro h
    refine ⟨fun item hitem => ?_, fun item hitem => ?_, fun item hitem => ?_⟩
    · obtain ⟨leg, -, -, hprovided, -⟩ := h item hitem
      exact hprovided
    · obtain ⟨leg, -, hclient, -, -⟩ := h item hitem
      exact hclient
    · obtain ⟨leg, hleg, -, -, hsymbol⟩ := h item hitem
      exact ⟨leg, hleg, hsymbol⟩
  · rintro ⟨hprovided, hclient, hsymbol⟩ item hitem
    obtain ⟨leg, hleg, heq⟩ := hsymbol item hitem
    exact ⟨leg, hleg, hclient item hitem, hprovided item hitem, heq⟩

/-- A symbol is traded when it is the symbol of a trade. -/
theorem tradedOf_eq_nil
    (htrades : ∀ item ∈ new, item.activityType = .fill ∨ item.activityType = .optrd) :
    tradedOf new symbol = [] ↔ ¬∃ item ∈ new, item.symbol = some symbol := by
  rw [tradedOf, List.filterMap_eq_nil_iff]
  constructor
  · rintro hnone ⟨item, hitem, hsymbol⟩
    obtain ⟨-, quantity, hquantity, -⟩ := traded_facts (htrades item hitem)
    have habsent := hnone item (List.mem_filter.mpr ⟨hitem, by simp [hsymbol]⟩)
    rw [hquantity] at habsent
    cases habsent
  · intro hnone item hitem
    obtain ⟨hitem, hsymbol⟩ := List.mem_filter.mp hitem
    exact absurd ⟨item, hitem, of_decide_eq_true hsymbol⟩ hnone

/-- The quantities that the legs of an attempt trade, under their keys. -/
def legEntries (attempt : OrderAttempt) (provider : String) (legs : List OrderLegIntent) :
    List (FillKey × Decimal) :=
  legs.map fun leg => (legKey attempt provider leg, signedChange attempt.filledQuantity leg)

theorem expected_keys {key : FillKey} :
    ((sumsBy (legEntries attempt provider legs)).get key).isSome = true ↔
      ∃ leg ∈ legs, legKey attempt provider leg = key := by
  rw [isSome_sumsBy, legEntries]
  simp

/-- The expected sum of a leg is the total that is due of its symbol. -/
theorem expected_sum {leg : OrderLegIntent} (hleg : leg ∈ legs) :
    (sumsBy (legEntries attempt provider legs)).get (legKey attempt provider leg) =
      some (total (dueOf attempt legs leg.symbol)) := by
  have hne : dueOf attempt legs leg.symbol ≠ [] := by
    rw [dueOf, Ne, List.map_eq_nil_iff, List.filter_eq_nil_iff]
    intro hnone
    exact hnone leg hleg (by simp)
  rw [get_sumsBy, legEntries, legKey, amountsOf_legs, if_neg hne]

/-- Trades of the order have the sums of the legs when every leg is traded and the totals agree. -/
theorem equalSums_trades (hprovided : ∀ item ∈ new, item.providerOrderId = some provider)
    (hclient : ∀ item ∈ new, item.clientOrderId = some attempt.clientOrderId)
    (hsymbol : ∀ item ∈ new, ∃ leg ∈ legs, item.symbol = some leg.symbol)
    (htrades : ∀ item ∈ new, item.activityType = .fill ∨ item.activityType = .optrd) :
    equalSums (sumsBy (new.filterMap entryOf)) (sumsBy (legEntries attempt provider legs)) = true ↔
      ∀ leg ∈ legs, (∃ item ∈ new, item.symbol = some leg.symbol) ∧
        (total (tradedOf new leg.symbol) == total (dueOf attempt legs leg.symbol)) = true := by
  have hsum : ∀ leg : OrderLegIntent,
      (sumsBy (new.filterMap entryOf)).get (legKey attempt provider leg) =
        if tradedOf new leg.symbol = [] then none else some (total (tradedOf new leg.symbol)) := by
    intro leg
    rw [get_sumsBy, legKey, amountsOf_activities hprovided hclient]
  rw [equalSums_iff]
  · constructor
    · intro hall leg hleg
      obtain ⟨other, hother, hequal⟩ := hall _ _ (expected_sum hleg)
      rw [hsum leg] at hother
      split at hother
      · cases hother
      · rename_i htraded
        obtain rfl := Option.some.inj hother
        exact ⟨not_not.mp (mt (tradedOf_eq_nil htrades).mpr htraded), hequal⟩
    · intro hall key sum hget
      obtain ⟨leg, hleg, rfl⟩ := expected_keys.mp (Option.isSome_of_mem hget)
      rw [expected_sum hleg] at hget
      obtain rfl := Option.some.inj hget
      obtain ⟨htraded, hequal⟩ := hall leg hleg
      have hne : tradedOf new leg.symbol ≠ [] :=
        fun hnil => (tradedOf_eq_nil htrades).mp hnil htraded
      exact ⟨_, by rw [hsum leg, if_neg hne]; rfl, hequal⟩
  · intro key hsome
    obtain ⟨entry, hentry, rfl⟩ := (isSome_sumsBy _ _).mp hsome
    obtain ⟨item, hitem, hmade⟩ := List.mem_filterMap.mp hentry
    obtain ⟨key, hkey, hmade⟩ := Option.bind_eq_some_iff.mp hmade
    obtain ⟨quantity, -, hmade⟩ := Option.bind_eq_some_iff.mp hmade
    obtain ⟨leg, hleg, heq⟩ := hsymbol item hitem
    rw [activityKey_eq_some.mpr ⟨hclient item hitem, hprovided item hitem, heq⟩] at hkey
    cases hkey
    cases hmade
    exact expected_keys.mpr ⟨leg, hleg, rfl⟩

/-- A matcher accepts the trades of an attempt when its legs count and the trades add up to them. -/
theorem fillsMatchAttempts_iff {counts : PositionIntent → Bool}
    (hprovider : attempt.providerOrderId = some provider) (hnamed : provider ≠ "")
    (hdistinct : (activityHashes new).Nodup)
    (htrades : ∀ item ∈ new, item.activityType = .fill ∨ item.activityType = .optrd) :
    fillsMatchAttempts counts new [attempt] legs = .ok true ↔
      (∀ leg ∈ legs, counts leg.intent = true) ∧ TradesOf attempt legs new ∧ ∀ leg ∈ legs,
        (total (tradedOf new leg.symbol) == total (dueOf attempt legs leg.symbol)) = true := by
  have hexpected : expectedFills counts legs [attempt] =
      if legs.all (fun leg => counts leg.intent) then some (legEntries attempt provider legs)
      else none := by
    simp only [expectedFills, hprovider, Option.bind_eq_bind, Option.bind_some,
      beq_eq_false_iff_ne.mpr hnamed, Bool.false_or, List.append_nil, Option.pure_def]
    cases legs.all (fun leg => counts leg.intent) <;> rfl
  rw [fillsMatchAttempts, hexpected]
  by_cases hcounts : legs.all (fun leg => counts leg.intent) = true
  · rw [if_pos hcounts]
    dsimp only
    obtain ⟨fills, hfills, hspec⟩ := @observedFills_ok new
      (sumsBy (legEntries attempt provider legs)) [] (fun _ _ => List.not_mem_nil) hdistinct htrades
    have hresult : (fills.any fun observed =>
        equalSums (sumsBy observed) (sumsBy (legEntries attempt provider legs))) = true ↔
        ∃ found, fills = some found ∧
          equalSums (sumsBy found) (sumsBy (legEntries attempt provider legs)) = true := by
      cases fills <;> simp
    have hkeyed : (∀ item ∈ new, ∃ key ∈ activityKey item,
        ((sumsBy (legEntries attempt provider legs)).get key).isSome = true) ↔
        ∀ item ∈ new, ∃ leg ∈ legs, activityKey item = some (legKey attempt provider leg) := by
      refine forall₂_congr fun item _ => ?_
      simp only [expected_keys]
      constructor
      · rintro ⟨key, hkey, leg, hleg, rfl⟩
        exact ⟨leg, hleg, hkey⟩
      · rintro ⟨leg, hleg, hkey⟩
        exact ⟨_, hkey, leg, hleg, rfl⟩
    simp only [hfills, ok_bind, pure, Except.pure, Except.ok.injEq, hresult, hspec, hkeyed,
      keyed_iff hprovider]
    constructor
    · rintro ⟨found, ⟨⟨hprovided, hclient, hsymbol⟩, rfl⟩, hequal⟩
      have hall := (equalSums_trades (fun item hitem => (hprovided item hitem).trans hprovider)
        hclient hsymbol htrades).mp hequal
      exact ⟨List.all_eq_true.mp hcounts,
        ⟨hprovided, hclient, hsymbol, fun leg hleg => (hall leg hleg).1⟩,
        fun leg hleg => (hall leg hleg).2⟩
    · rintro ⟨-, ⟨hprovided, hclient, hsymbol, hcovered⟩, htotals⟩
      have hequal := (equalSums_trades (fun item hitem => (hprovided item hitem).trans hprovider)
        hclient hsymbol htrades).mpr fun leg hleg => ⟨hcovered leg hleg, htotals leg hleg⟩
      exact ⟨_, ⟨⟨hprovided, hclient, hsymbol⟩, rfl⟩, hequal⟩
  · rw [if_neg hcounts]
    constructor
    · intro h
      cases h
    · rintro ⟨hall, -⟩
      exact absurd (List.all_eq_true.mpr hall) hcounts

/-- Where keys tell items apart, one item has the key of an item. -/
theorem filter_key_eq {α κ : Type} [DecidableEq κ] {key : α → κ} {items : List α}
    (h : (items.map key).Nodup) {item : α} (hitem : item ∈ items) :
    (items.filter fun other => key other = key item) = [item] := by
  induction items with
  | nil => cases hitem
  | cons first rest ih =>
      obtain ⟨hfirst, hrest⟩ := List.nodup_cons.mp h
      rcases List.mem_cons.mp hitem with rfl | hitem
      · have hnone : (rest.filter fun other => key other = key item) = [] := by
          rw [List.filter_eq_nil_iff]
          intro other hother hsame
          exact hfirst (of_decide_eq_true hsame ▸ List.mem_map_of_mem hother)
        rw [List.filter_cons, if_pos (by simp), hnone]
      · have hne : key first ≠ key item := by
          intro hsame
          exact hfirst (hsame ▸ List.mem_map_of_mem hitem)
        rw [List.filter_cons, if_neg (by simpa using hne), ih hrest hitem]

/-- One activity for each symbol, with the quantity of its leg, adds up to legs of different
symbols. -/
theorem OneForEach.addUp (h : OneForEach attempt legs new) (htraded : TradesOf attempt legs new)
    (hlegs : (legs.map OrderLegIntent.symbol).Nodup)
    (htrades : ∀ item ∈ new, item.activityType = .fill ∨ item.activityType = .optrd)
    {leg : OrderLegIntent} (hleg : leg ∈ legs) :
    (total (tradedOf new leg.symbol) == total (dueOf attempt legs leg.symbol)) = true := by
  have hdue : dueOf attempt legs leg.symbol = [signedChange attempt.filledQuantity leg] := by
    rw [dueOf, filter_key_eq hlegs hleg]
    rfl
  obtain ⟨hnodup, hquantities⟩ := h
  obtain ⟨item, hitem, hsymbol⟩ := htraded.covered leg hleg
  obtain ⟨-, quantity, hquantity, -⟩ := traded_facts (htrades item hitem)
  have htradedOf : tradedOf new leg.symbol = [quantity] := by
    rw [tradedOf, ← hsymbol, filter_key_eq hnodup hitem, List.filterMap_cons, hquantity]
    rfl
  have hequal : (quantity == signedChange attempt.filledQuantity leg) = true := by
    have hexpected := List.all_eq_true.mp hquantities item hitem
    rw [hasExpectedQuantity, hsymbol, Option.bind_some, expectedQuantity,
      lastByKey_eq_some hleg rfl fun other hother hsame =>
        List.inj_on_of_nodup_map hlegs hother hleg hsame, hquantity] at hexpected
    exact hexpected
  rw [htradedOf, hdue, beq_iff_value]
  exact value_add_congr rfl (beq_iff_value.mp hequal)

/-- The new activities are trades of the attempt only if they add up to its legs exactly where they
are one for each. -/
def FillsAgree (action : ExecutionAction) (attempt : OrderAttempt) (legs : List OrderLegIntent)
    (new : List ActivityItem) : Prop :=
  TradesOf attempt legs new → (OneForEach attempt legs new ↔ AddUp action attempt legs new)

/-- Candidates are bound to a filled attempt when the new ones among them are its trades, one for
each leg. -/
theorem boundAttemptActivities_iff {intent : ExecutionIntentRow}
    {state : AccountReconciliationStateRow} {candidates : List ActivityItem}
    (hvisible : knownMissing state.knownActivities candidates state.baselineCapturedAt = false)
    (hprovider : attempt.providerOrderId = some provider) (hfilled : 0 < attempt.filledQuantity)
    (htrades : ∀ item ∈ newTrades state.knownActivities candidates,
      item.activityType = .fill ∨ item.activityType = .optrd) :
    (∃ bound, boundAttemptActivities intent state attempt (some candidates)
      (decide (0 < attempt.filledQuantity)) = .ok bound) ↔
      TradesOf attempt intent.envelope.legs (newTrades state.knownActivities candidates) ∧
        OneForEach attempt intent.envelope.legs (newTrades state.knownActivities candidates) := by
  have hlegs : intent.envelope.legs ≠ [] := by
    have hvalid := intent.envelope.valid
    simp only [OrderEnvelopeFields.postInit, check_bind_ok, raiseIf_ok, Bool.or_eq_false_iff,
      bne_eq_false_iff_eq] at hvalid
    obtain ⟨⟨hlength, -⟩, -⟩ := hvalid
    intro hnil
    rw [hnil] at hlength
    split at hlength <;> cases hlength
  rw [← explainsFill_trades hprovider hfilled htrades]
  simp only [boundAttemptActivities, boundCandidates, hvisible, raiseIf, Bool.false_eq_true,
    if_false, ok_bind, hfilled, decide_true]
  rw [newTrades] at htrades ⊢
  split
  · rename_i hempty
    rw [List.isEmpty_iff.mp hempty]
    constructor
    · rintro ⟨bound, hbound⟩
      cases hbound
    · intro hexplains
      obtain ⟨-, -, -, hcount, -, -⟩ := explainsFill_iff.mp hexplains
      rw [List.length_nil, eq_comm, List.length_eq_zero_iff, List.dedup_eq_nil,
        List.map_eq_nil_iff] at hcount
      exact absurd hcount hlegs
  · simp only [boundTrades, check_bind_ok, raiseIf_ok, Bool.not_eq_false']
    constructor
    · rintro ⟨bound, hexplains, -⟩
      exact hexplains
    · intro hexplains
      exact ⟨_, hexplains, rfl⟩

/-- An expectation binds the new trades of a filled attempt exactly when the matcher of its action
accepts them, if and only if they add up to the legs exactly where they are one for each. For legs
of different symbols, which open where they are of an entry, this fails only for trades that add up
to the legs without being one for each. -/
theorem fillEvidence_agrees (intent : ExecutionIntentRow) (state : AccountReconciliationStateRow)
    (attempt : OrderAttempt) (candidates : List ActivityItem) (provider : String)
    (hvisible : knownMissing state.knownActivities candidates state.baselineCapturedAt = false)
    (hprovider : attempt.providerOrderId = some provider) (hnamed : provider ≠ "")
    (hfilled : 0 < attempt.filledQuantity)
    (hdistinct : (activityHashes (newTrades state.knownActivities candidates)).Nodup)
    (htrades : ∀ item ∈ newTrades state.knownActivities candidates,
      item.activityType = .fill ∨ item.activityType = .optrd) :
    (((∃ bound, boundAttemptActivities intent state attempt (some candidates)
        (decide (0 < attempt.filledQuantity)) = .ok bound) ↔
      actionMatchesAttempts intent.envelope.action (newTrades state.knownActivities candidates)
        [attempt] intent.envelope.legs = .ok true) ↔
      FillsAgree intent.envelope.action attempt intent.envelope.legs
        (newTrades state.knownActivities candidates)) ∧
    ((intent.envelope.legs.map OrderLegIntent.symbol).Nodup →
      (intent.envelope.action = .entry →
        ∀ leg ∈ intent.envelope.legs, opensPosition leg.intent = true) →
      (FillsAgree intent.envelope.action attempt intent.envelope.legs
        (newTrades state.knownActivities candidates) ↔
      ¬(TradesOf attempt intent.envelope.legs (newTrades state.knownActivities candidates) ∧
        AddUp intent.envelope.action attempt intent.envelope.legs
          (newTrades state.knownActivities candidates) ∧
        ¬OneForEach attempt intent.envelope.legs
          (newTrades state.knownActivities candidates)))) := by
  have hmatch : actionMatchesAttempts intent.envelope.action
      (newTrades state.knownActivities candidates) [attempt] intent.envelope.legs = .ok true ↔
      TradesOf attempt intent.envelope.legs (newTrades state.knownActivities candidates) ∧
        AddUp intent.envelope.action attempt intent.envelope.legs
          (newTrades state.knownActivities candidates) := by
    rw [actionMatchesAttempts, AddUp]
    by_cases haction : intent.envelope.action = .entry
    · rw [if_pos haction, activitiesMatchAttempts,
        fillsMatchAttempts_iff hprovider hnamed hdistinct htrades]
      simp only [haction, forall_const]
      exact and_left_comm
    · rw [if_neg haction, lifecycleActivitiesMatchAttempts,
        fillsMatchAttempts_iff hprovider hnamed hdistinct htrades]
      simp only [haction, false_implies, true_and, implies_true]
  refine ⟨?_, fun hlegs hopens => ?_⟩
  · rw [boundAttemptActivities_iff hvisible hprovider hfilled htrades, hmatch, FillsAgree]
    exact and_congr_right_iff
  · rw [FillsAgree]
    constructor
    · rintro hagree ⟨htraded, hadds, hnot⟩
      exact hnot ((hagree htraded).mpr hadds)
    · intro hsplit htraded
      constructor
      · intro hone
        exact ⟨hopens, fun leg hleg => hone.addUp htraded hlegs htrades hleg⟩
      · intro hadds
        by_contra hnot
        exact hsplit ⟨htraded, hadds, hnot⟩

end

section Rehearsed

open Rehearsal

/-- The first attempt of the entry, filled with its two spreads. -/
def filledAttempt : OrderAttempt where
  intentId := intentId
  ordinal := 0
  clientOrderId := "C"
  requestHash := zeros
  state := .broker .filled
  providerOrderId := some "P0"
  filledQuantity := 2
  quantity := 2

/-- A fill of the entry in two executions of its bought leg. -/
def splitTrades : Except Failure (List ActivityItem) := do
  let first ← tradeOf '1' "AAA" 1 "C"
  let second ← tradeOf '2' "AAA" 1 "C"
  let third ← tradeOf '3' "BBB" (-2) "C"
  return [first, second, third]

/-- What is new about an account that shows some trades and its funding meets what the rules are
compared under. -/
def Compared (trades : List ActivityItem) : Prop :=
  knownMissing firstState.knownActivities (funding :: trades)
      firstState.baselineCapturedAt = false ∧
    (activityHashes (newTrades firstState.knownActivities (funding :: trades))).Nodup ∧
    (∀ item ∈ newTrades firstState.knownActivities (funding :: trades),
      item.activityType = .fill ∨ item.activityType = .optrd) ∧
    explainsFill filledAttempt envelope.legs
      (newTrades firstState.knownActivities (funding :: trades)) = false ∧
    actionMatchesAttempts .entry (newTrades firstState.knownActivities (funding :: trades))
      [filledAttempt] envelope.legs = .ok true

instance (trades : List ActivityItem) : Decidable (Compared trades) :=
  inferInstanceAs (Decidable (_ ∧ _))

theorem splitTrades_compared : (match splitTrades with
    | .ok trades => decide (Compared trades)
    | .error _ => false) = true := by
  decide +kernel

theorem exists_compared : ∃ trades, Compared trades := by
  have hcompared := splitTrades_compared
  split at hcompared
  · rename_i trades _
    exact ⟨trades, of_decide_eq_true hcompared⟩
  · cases hcompared

/-- The expectation refuses trades that can be compared. -/
theorem Compared.refused {trades : List ActivityItem} (h : Compared trades) :
    ¬∃ bound, boundAttemptActivities entryRow firstState filledAttempt (some (funding :: trades))
      (decide (0 < filledAttempt.filledQuantity)) = .ok bound := by
  obtain ⟨hvisible, -, htrades, hrefused, -⟩ := h
  intro hbound
  have hexplains := (explainsFill_trades rfl (by decide) htrades).mpr
    ((boundAttemptActivities_iff hvisible rfl (by decide) htrades).mp hbound)
  exact Bool.false_ne_true (hrefused.symm.trans hexplains)

/-- In the rehearsal a leg that is filled in two executions is evidence for one rule only. -/
theorem fillEvidence_agrees_rehearsed : ∃ trades, Compared trades ∧
    ¬FillsAgree .entry filledAttempt envelope.legs
      (newTrades firstState.knownActivities (funding :: trades)) := by
  obtain ⟨trades, h⟩ := exists_compared
  refine ⟨trades, h, fun hagree => h.refused ?_⟩
  obtain ⟨hvisible, hdistinct, htrades, -, hmatched⟩ := h
  exact ((fillEvidence_agrees entryRow firstState filledAttempt (funding :: trades) "P0" hvisible
    rfl (by decide) (by decide) hdistinct htrades).1.mpr hagree).mpr hmatched

/-- New trades with hashes of their own that the matcher of entries accepts for a filled attempt and
the expectation does not bind to it. -/
theorem fillEvidence_differs : ∃ (intent : ExecutionIntentRow)
    (state : AccountReconciliationStateRow) (attempt : OrderAttempt)
    (candidates : List ActivityItem),
    knownMissing state.knownActivities candidates state.baselineCapturedAt = false ∧
    attempt.providerOrderId = some "P0" ∧ 0 < attempt.filledQuantity ∧
    (activityHashes (newTrades state.knownActivities candidates)).Nodup ∧
    (∀ item ∈ newTrades state.knownActivities candidates,
      item.activityType = .fill ∨ item.activityType = .optrd) ∧
    actionMatchesAttempts intent.envelope.action (newTrades state.knownActivities candidates)
      [attempt] intent.envelope.legs = .ok true ∧
    ¬∃ bound, boundAttemptActivities intent state attempt (some candidates)
      (decide (0 < attempt.filledQuantity)) = .ok bound := by
  obtain ⟨trades, h⟩ := exists_compared
  have hrefused := h.refused
  obtain ⟨hvisible, hdistinct, htrades, -, hmatched⟩ := h
  exact ⟨entryRow, firstState, filledAttempt, funding :: trades, hvisible, rfl, by decide,
    hdistinct, htrades, hmatched, hrefused⟩

end Rehearsed

end AlphaDecay
