import AlphaDecay.AgentCodec.Registry
import AlphaDecay.AgentCodec.RoundTrip

/-!
# Recorded decisions are read back

Over the registered classes one dataclass declares a lineage without a default: the preview of
a submission order. A payload is read back as an equal value exactly where no preview without
lineage stands in the value, and so is every decision that is recorded. Equal payloads stand
for equal values in every case.
-/

namespace AlphaDecay.AgentCodec

open Foundation

/-! ## Equal values -/

section

variable {classes : List Class} {constructors : Constructors}
variable {value other : Value} {items : List Value} {name : String}

variable {others fields : List (String × Value)}

/-- A key that is found names an entry. -/
theorem mem_of_find {items : List (String × Value)} (h : find name items = some value) :
    (name, value) ∈ items := by
  induction items with
  | nil => cases h
  | cons pair items ih =>
      obtain ⟨key, other⟩ := pair
      rw [find] at h
      split at h
      · cases h
        subst ‹key = name›
        exact List.mem_cons_self
      · exact List.mem_cons_of_mem _ (ih h)

/-- An entry is found under its key where no key stands twice. -/
theorem find_of_mem {items : List (String × Value)} (hkeys : (items.map (·.1)).Nodup)
    (hmem : (name, value) ∈ items) : find name items = some value := by
  induction items with
  | nil => cases hmem
  | cons pair items ih =>
      obtain ⟨key, other⟩ := pair
      rw [List.map_cons, List.nodup_cons] at hkeys
      rw [find]
      rcases List.mem_cons.mp hmem with heq | hmem
      · cases heq
        rw [if_pos rfl]
      · rw [if_neg, ih hkeys.2 hmem]
        rintro rfl
        exact hkeys.1 (List.mem_map.mpr ⟨_, hmem, rfl⟩)

theorem sameEntries_iff {items : List (String × Value)} :
    SameEntries items others ↔
      ∀ pair ∈ items, ∃ other, find pair.1 others = some other ∧ Same pair.2 other := by
  induction items with
  | nil => simp [SameEntries]
  | cons pair items ih => rw [SameEntries, ih, List.forall_mem_cons]

/-- Items that equal the same items are equal. -/
theorem sameItems_of_common {others common : List Value} (hleft : SameItems items common)
    (hright : SameItems others common)
    (hback : ∀ item ∈ items, ∀ other ∈ others, ∀ value, Same item value → Same other value →
      Same item other) : SameItems items others := by
  induction items generalizing others common with
  | nil =>
      rw [SameItems] at hleft
      subst hleft
      cases others with
      | nil => rw [SameItems]
      | cons other others =>
          rw [SameItems] at hright
          obtain ⟨_, _, h, -⟩ := hright
          cases h
  | cons item items ih =>
      rw [SameItems] at hleft
      obtain ⟨value, values, rfl, hvalue, hvalues⟩ := hleft
      cases others with
      | nil =>
          rw [SameItems] at hright
          cases hright
      | cons other others =>
          rw [SameItems] at hright
          obtain ⟨_, _, h, hother, hothers⟩ := hright
          cases h
          rw [SameItems]
          refine ⟨other, others, rfl,
            hback item List.mem_cons_self other List.mem_cons_self value hvalue hother, ?_⟩
          exact ih hvalues hothers fun item hitem other hother =>
            hback item (List.mem_cons_of_mem _ hitem) other (List.mem_cons_of_mem _ hother)

/-- Fields that equal the same fields are equal. -/
theorem sameFields_of_common {common : List (String × Value)} (hleft : SameFields fields common)
    (hright : SameFields others common)
    (hback : ∀ field ∈ fields, ∀ other ∈ others, ∀ value, Same field.2 value →
      Same other.2 value → Same field.2 other.2) : SameFields fields others := by
  induction fields generalizing others common with
  | nil =>
      rw [SameFields] at hleft
      subst hleft
      cases others with
      | nil => rw [SameFields]
      | cons other others =>
          rw [SameFields] at hright
          obtain ⟨_, _, h, -⟩ := hright
          cases h
  | cons field fields ih =>
      obtain ⟨name, item⟩ := field
      rw [SameFields] at hleft
      obtain ⟨value, values, rfl, hvalue, hvalues⟩ := hleft
      cases others with
      | nil =>
          rw [SameFields] at hright
          cases hright
      | cons other others =>
          obtain ⟨key, other⟩ := other
          rw [SameFields] at hright
          obtain ⟨_, _, h, hother, hothers⟩ := hright
          cases h
          rw [SameFields]
          refine ⟨other, others, rfl,
            hback _ List.mem_cons_self _ List.mem_cons_self value hvalue hother, ?_⟩
          exact ih hvalues hothers fun field hfield other hother =>
            hback field (List.mem_cons_of_mem _ hfield) other (List.mem_cons_of_mem _ hother)

/-- Dictionaries of the same size with an equal under each key hold the same keys. -/
theorem keys_perm {items : List (String × Value)} (hkeys : (items.map (·.1)).Nodup)
    (hlength : items.length = others.length) (h : SameEntries items others) :
    (items.map (·.1)).Perm (others.map (·.1)) := by
  have hsubset : items.map (·.1) ⊆ others.map (·.1) := by
    intro key hkey
    obtain ⟨pair, hpair, rfl⟩ := List.mem_map.mp hkey
    obtain ⟨other, hother, -⟩ := sameEntries_iff.mp h pair hpair
    exact List.mem_map.mpr ⟨_, mem_of_find hother, rfl⟩
  exact (hkeys.subperm hsubset).perm_of_length_le (by simp [hlength])

/-- A value with nothing inside that is equal only to itself. -/
def Value.isPlain : Value → Bool
  | .decimal _ | .record _ _ _ | .tuple _ | .list _ | .dict _ => false
  | _ => true

theorem same_plain (h : value.isPlain = true) : Same other value ↔ other = value := by
  cases value <;> first | (cases h; done) | (cases other <;> simp [Same, eq_comm])

theorem same_decimal {d : Decimal} :
    Same other (.decimal d) ↔ ∃ c, other = .decimal c ∧ d.value = c.value := by
  cases other <;> simp [Same]

theorem same_tuple :
    Same other (.tuple items) ↔ ∃ others, other = .tuple others ∧ SameItems others items := by
  cases other <;> simp [Same]

theorem same_list :
    Same other (.list items) ↔ ∃ others, other = .list others ∧ SameItems others items := by
  cases other <;> simp [Same]

theorem same_dict {items : List (String × Value)} :
    Same other (.dict items) ↔ ∃ others, other = .dict others ∧
      others.length = items.length ∧ SameEntries others items := by
  cases other <;> simp [Same]

theorem same_record {kind : RecordKind} {cls : String} :
    Same other (.record kind cls fields) ↔ ∃ others, other = .record kind cls others ∧
      SameFields others fields := by
  cases other <;> simp [Same, eq_comm, and_assoc]

/-- Values that equal the same value are equal. -/
theorem Same.of_common {common : Value} (hvalue : Built classes constructors value)
    (hother : Built classes constructors other) (hleft : Same value common)
    (hright : Same other common) : Same value other := by
  induction hvalue generalizing other common with
  | decimal a =>
      rw [Same] at hleft
      obtain ⟨b, rfl, hb⟩ := hleft
      obtain ⟨c, rfl, hc⟩ := same_decimal.mp hright
      rw [Same]
      exact ⟨c, rfl, hc.symm.trans hb⟩
  | @record kind cls fields _ _ ih =>
      rw [Same] at hleft
      obtain ⟨common, rfl, hfields⟩ := hleft
      obtain ⟨others, rfl, hothers⟩ := same_record.mp hright
      cases hother with
      | record _ hbuilt =>
          rw [Same]
          exact ⟨others, rfl, sameFields_of_common hfields hothers
            fun field hfield other hother _ => ih field hfield (hbuilt other hother)⟩
  | @tuple items _ ih =>
      rw [Same] at hleft
      obtain ⟨common, rfl, hitems⟩ := hleft
      obtain ⟨others, rfl, hothers⟩ := same_tuple.mp hright
      cases hother with
      | tuple hbuilt =>
          rw [Same]
          exact ⟨others, rfl, sameItems_of_common hitems hothers
            fun item hitem other hother _ => ih item hitem (hbuilt other hother)⟩
  | @list items _ ih =>
      rw [Same] at hleft
      obtain ⟨common, rfl, hitems⟩ := hleft
      obtain ⟨others, rfl, hothers⟩ := same_list.mp hright
      cases hother with
      | list hbuilt =>
          rw [Same]
          exact ⟨others, rfl, sameItems_of_common hitems hothers
            fun item hitem other hother _ => ih item hitem (hbuilt other hother)⟩
  | @dict items hkeys _ ih =>
      rw [Same] at hleft
      obtain ⟨common, rfl, hlength, hitems⟩ := hleft
      obtain ⟨others, rfl, hsize, hothers⟩ := same_dict.mp hright
      cases hother with
      | dict hnames hbuilt =>
          rw [Same]
          refine ⟨others, rfl, hlength.trans hsize.symm, sameEntries_iff.mpr fun pair hpair => ?_⟩
          -- the key stands in the common dictionary, and so in the other one
          obtain ⟨value, hvalue, hsame⟩ := sameEntries_iff.mp hitems pair hpair
          have hcommon := List.mem_map_of_mem (f := (·.1)) (mem_of_find hvalue)
          rw [← (keys_perm hnames hsize hothers).mem_iff] at hcommon
          obtain ⟨⟨key, other⟩, hother, hkey⟩ := List.mem_map.mp hcommon
          dsimp only at hkey
          subst hkey
          obtain ⟨found, hfound, hequal⟩ := sameEntries_iff.mp hothers _ hother
          dsimp only at hfound hequal
          rw [hvalue] at hfound
          cases hfound
          exact ⟨other, find_of_mem hnames hother,
            ih pair hpair (hbuilt _ hother) hsame hequal⟩
  | _ =>
      rw [Same] at hleft
      subst hleft
      rw [same_plain rfl] at hright
      rw [hright, Same]

end

/-! ## Equal payloads -/

section

variable {classes : List Class} {constructors : Constructors}

/-- A field whose lineage is absent by default. -/
def repairedField (field : Field) : Field :=
  if field.name = lineageField then ⟨field.name, some .none⟩ else field

/-- What a class declares, with a default for every lineage. -/
def repairedShape : Shape → Shape
  | .enum members => .enum members
  | .record kind declared => .record kind (declared.map repairedField)

/-- The classes with a default for every lineage: what they write is the same. -/
def repaired (classes : List Class) : List Class :=
  classes.map fun cls => ⟨cls.key, repairedShape cls.shape⟩

theorem names_repaired (declared : List Field) :
    (declared.map repairedField).map (·.name) = declared.map (·.name) := by
  rw [List.map_map]
  refine List.map_congr_left fun field _ => ?_
  rw [Function.comp_apply, repairedField]
  split <;> rfl

/-- A class is found repaired. -/
theorem lookup_repaired (cls : String) :
    lookup (repaired classes) cls = (lookup classes cls).map repairedShape := by
  induction classes with
  | nil => rfl
  | cons first classes ih =>
      simp only [lookup, repaired, List.map_cons, List.find?_cons] at ih ⊢
      by_cases h : first.key = cls
      · simp [h]
      · simpa [h] using ih

theorem wellFormed_repaired (h : wellFormed classes = true) : wellFormed (repaired classes) =
    true := by
  rw [wellFormed, repaired, List.all_map, List.all_eq_true]
  intro cls hcls
  have hcls' := List.all_eq_true.mp h cls hcls
  obtain ⟨key, shape⟩ := cls
  cases shape with
  | enum members => rfl
  | record kind declared =>
      simp only [Bool.and_eq_true, decide_eq_true_eq] at hcls'
      simp only [Function.comp_apply, repairedShape, Bool.and_eq_true, decide_eq_true_eq,
        names_repaired, List.all_map, List.all_eq_true]
      refine ⟨hcls'.1, fun field _ => ?_⟩
      rw [repairedField]
      split
      · simp [Value.isNone]
      · simp [*]

/-- What can exist still can. -/
theorem Built.repaired (h : Built classes constructors value) :
    Built (repaired classes) constructors value := by
  induction h with
  | none => exact .none
  | bool value => exact .bool value
  | int value => exact .int value
  | text value => exact .text value
  | decimal value => exact .decimal value
  | datetime value => exact .datetime value
  | date value => exact .date value
  | timedelta value => exact .timedelta value
  | uuid value => exact .uuid value
  | enum hmember =>
      refine .enum fun shape hclass => ?_
      rw [lookup_repaired] at hclass
      obtain ⟨old, hold, rfl⟩ := Option.map_eq_some_iff.mp hclass
      obtain ⟨members, rfl, hmem⟩ := hmember old hold
      exact ⟨members, rfl, hmem⟩
  | record hshape _ ih =>
      refine .record (fun shape hclass => ?_) ih
      rw [lookup_repaired] at hclass
      obtain ⟨old, hold, rfl⟩ := Option.map_eq_some_iff.mp hclass
      obtain ⟨declared, rfl, hnames, hconstruct⟩ := hshape old hold
      exact ⟨declared.map repairedField, rfl, by rw [names_repaired, hnames], hconstruct⟩
  | tuple _ ih => exact .tuple ih
  | list _ ih => exact .list ih
  | dict hkeys _ ih => exact .dict hkeys ih
  | foreign reason => exact .foreign reason

theorem classKey_repaired (cls : String) :
    classKey (repaired classes) cls = classKey classes cls := by
  rw [classKey, classKey, lookup_repaired, Option.isSome_map]

/-- Items encoded alike are encoded to the same documents. -/
theorem encodeItems_congr {other : List Class}
    (h : ∀ item ∈ items, encode other item = encode classes item) :
    encodeItems other items = encodeItems classes items := by
  induction items with
  | nil => rw [encodeItems, encodeItems]
  | cons item items ih =>
      rw [List.forall_mem_cons] at h
      rw [encodeItems, encodeItems, h.1, ih h.2]

/-- Fields encoded alike are encoded to the same documents. -/
theorem encodeFields_congr {other : List Class} {kind : RecordKind}
    {fields : List (String × Value)}
    (h : ∀ field ∈ fields, encode other field.2 = encode classes field.2) :
    encodeFields other kind fields = encodeFields classes kind fields := by
  induction fields with
  | nil => rw [encodeFields, encodeFields]
  | cons field fields ih =>
      rw [List.forall_mem_cons] at h
      rw [encodeFields, encodeFields, h.1, ih h.2]

/-- The default of a lineage does not show in what is written. -/
theorem encode_repaired (h : Built classes constructors value) :
    encode (repaired classes) value = encode classes value := by
  induction h with
  | enum _ => rw [encode, encode, classKey_repaired]
  | record _ _ ih => rw [encode, encode, classKey_repaired, encodeFields_congr ih]
  | tuple _ ih => rw [encode, encode, encodeItems_congr ih]
  | list _ ih => rw [encode, encode, encodeItems_congr ih]
  | dict _ _ ih =>
      have hentries := List.map_congr_left fun pair hpair =>
        congrArg (Prod.mk pair.1) (ih pair hpair)
      rw [encode, encode, encodeEntries_eq, encodeEntries_eq, hentries]
  | _ => rw [encode, encode]

/-- With a default for every lineage nothing is lost. -/
theorem lineageKept_repaired (value : Value) : LineageKept (repaired classes) value := by
  intro node _ hloses
  cases node with
  | record kind cls fields =>
      cases kind with
      | model => exact hloses
      | dataclass =>
          obtain ⟨-, declared, hclass, field, hfield, hname, hdefault⟩ := hloses
          rw [lookup_repaired] at hclass
          obtain ⟨old, -, hshape⟩ := Option.map_eq_some_iff.mp hclass
          cases old with
          | enum members => cases hshape
          | record kind fields =>
              cases hshape
              obtain ⟨before, -, rfl⟩ := List.mem_map.mp hfield
              rw [repairedField] at hname hdefault
              split at hdefault
              · cases hdefault
              · rename_i hother
                rw [if_neg hother] at hname
                exact hother hname
  | _ => exact hloses

/-- Values with the same document are equal. -/
theorem same_of_encode (hclasses : wellFormed classes = true)
    (hvalue : Built classes constructors value) (hother : Built classes constructors other)
    {document : Json} (hencode : encode classes value = .ok document)
    (hencode' : encode classes other = .ok document) : Same value other := by
  rw [← encode_repaired hvalue] at hencode
  rw [← encode_repaired hother] at hencode'
  have hrepaired := wellFormed_repaired hclasses
  obtain ⟨again, hagain, hsame⟩ :=
    decode_encode hrepaired hvalue.repaired (lineageKept_repaired value) hencode
  obtain ⟨again', hagain', hsame'⟩ :=
    decode_encode hrepaired hother.repaired (lineageKept_repaired other) hencode'
  rw [hagain] at hagain'
  cases hagain'
  exact Same.of_common hvalue hother hsame hsame'

end

/-! ## The registered classes -/

/-- The class of previews of submission orders. -/
def previewClass : String :=
  "backend.app.services.agent.SubmissionOrderPreview"

def PreviewWithoutLineage : Value → Prop
  | .record .dataclass cls fields => cls = previewClass ∧ (lineageField, .none) ∈ fields
  | _ => False

/-- Whether every lineage of a class has a default. -/
def lineageDefaulted (cls : Class) : Bool :=
  match cls.shape with
  | .enum _ => true
  | .record _ declared =>
      declared.all fun field => field.name ≠ lineageField || field.default.isSome

/-- Whether a class is a dataclass with a lineage that has no default. -/
def needsLineage : Option Shape → Bool
  | some (.record .dataclass declared) =>
      declared.any fun field => field.name = lineageField && field.default.isNone
  | _ => false

theorem registry_checked : wellFormed registry = true ∧
    (registry.all fun cls => lineageDefaulted cls || cls.key = previewClass) = true ∧
    needsLineage (lookup registry previewClass) = true := by
  decide +kernel

theorem registry_wellFormed : wellFormed registry = true :=
  registry_checked.1

theorem lineageDefaulted_or_preview :
    (registry.all fun cls => lineageDefaulted cls || cls.key = previewClass) = true :=
  registry_checked.2.1

theorem needsLineage_preview : needsLineage (lookup registry previewClass) = true :=
  registry_checked.2.2

/-- An enumeration needs no lineage. -/
example : needsLineage (lookup registry "backend.app.contracts.v1.models.AccountRole") = false := by
  decide +kernel

/-- Over the registered classes only a preview loses its lineage. -/
theorem losesLineage_iff (node : Value) :
    LosesLineage registry node ↔ PreviewWithoutLineage node := by
  cases node with
  | record kind cls fields =>
      cases kind with
      | model => exact Iff.rfl
      | dataclass =>
          constructor
          · rintro ⟨hfield, declared, hclass, field, hdeclared, hname, hdefault⟩
            obtain ⟨found, hfound, hshape⟩ := Option.map_eq_some_iff.mp hclass
            have hkey : found.key = cls := by simpa using List.find?_some hfound
            have hall := List.all_eq_true.mp lineageDefaulted_or_preview found
              (List.mem_of_find?_eq_some hfound)
            simp only [lineageDefaulted, hshape, Bool.or_eq_true, List.all_eq_true,
              decide_eq_true_eq] at hall
            rcases hall with hdefaulted | hpreview
            · have hone := hdefaulted field hdeclared
              simp [hname, hdefault] at hone
            · exact ⟨hkey.symm.trans hpreview, hfield⟩
          · rintro ⟨rfl, hfield⟩
            have hneeds := needsLineage_preview
            cases hclass : lookup registry previewClass with
            | none => rw [hclass] at hneeds; cases hneeds
            | some shape =>
                rw [hclass] at hneeds
                obtain _ | ⟨_ | _, declared⟩ := shape
                · cases hneeds
                · obtain ⟨field, hmem, hlineage⟩ := List.any_eq_true.mp hneeds
                  simp only [Bool.and_eq_true, decide_eq_true_eq, Option.isNone_iff_eq_none]
                    at hlineage
                  exact ⟨hfield, declared, hclass, field, hmem, hlineage⟩
                · cases hneeds
  | _ => exact Iff.rfl

/-- The classes that the fields of a decision reach. -/
def decisionClasses : List String := [
  "backend.app.services.agent.AgentDecision",
  "backend.app.services.acquisition.CalibrationBinding",
  "backend.app.policy.opportunity.OpportunityDecisionRecord",
  "backend.app.policy.opportunity.OpportunityInput",
  "backend.app.policy.opportunity.VerticalCandidate",
  "backend.app.policy.opportunity.OptionLeg",
  "backend.app.policy.opportunity.AccountOpportunityState",
  "backend.app.policy.evaluation.PolicyResult",
  "backend.app.policy.evaluation.ScoreResult",
  "backend.app.policy.evaluation.AssessmentInput",
  "backend.app.policy.evaluation.ScoreInput",
  "backend.app.policy.evaluation.HardGateInput",
  "backend.app.policy.evaluation.RollCandidate",
  "backend.app.contracts.v1.models.AssessmentResponse",
  "backend.app.contracts.v1.models.GreekExposure",
  "backend.app.contracts.v1.models.DriftComponents",
  "backend.app.contracts.v1.models.Alternative",
  "backend.app.contracts.v1.models.EvidenceClassification",
  "backend.app.experiment_lineage.ExperimentExecutionLineage"]

/-- A decision: an instance of its class with nothing inside that its fields do not reach. -/
def IsDecision (value : Value) : Prop :=
  (∃ fields, value = .record .dataclass decisionClass fields) ∧
    ∀ kind cls fields, .record kind cls fields ∈ value.nodes → cls ∈ decisionClasses

theorem IsDecision.noPreview (h : IsDecision value) :
    ∀ node ∈ value.nodes, ¬ PreviewWithoutLineage node := by
  intro node hnode hpreview
  cases node with
  | record kind cls fields =>
      cases kind with
      | model => exact hpreview
      | dataclass =>
          have hmem := h.2 _ _ _ hnode
          rw [hpreview.1] at hmem
          exact absurd hmem (by decide +kernel)
  | _ => exact hpreview

/-! ## The round trip -/

section

variable {constructors : Constructors}

variable {payload : Json}

/-- A payload is decoded to an equal value. -/
def ReadBack (constructors : Constructors) (payload : Json) (value : Value) : Prop :=
  ∃ again, decodeAgentValue registry constructors payload = .ok again ∧ Same value again

/-- The payload of a value holds its document. -/
theorem encodeAgentValue_ok {classes : List Class}
    (h : encodeAgentValue classes value = .ok payload) :
    ∃ document, encode classes value = .ok document ∧
      payload = .object [("codec", .text codecName), ("value", document)] := by
  obtain ⟨document, hdocument, hroot⟩ := bind_ok.mp h
  split at hroot
  · cases hroot
  · exact ⟨document, hdocument, (Except.ok.inj hroot).symm⟩

theorem decodeAgentValue_payload {classes : List Class} (document : Json) :
    decodeAgentValue classes constructors
        (.object [("codec", .text codecName), ("value", document)]) =
      decode classes constructors document := by
  rw [decodeAgentValue, if_pos ⟨rfl, by simp [Json.hasOnly]⟩]
  rfl

/-- A payload is decoded to an equal value exactly where no preview without lineage stands in
the value. -/
theorem readBack_iff (hbuilt : Built registry constructors value)
    (hencode : encodeAgentValue registry value = .ok payload) :
    ReadBack constructors payload value ↔ ∀ node ∈ value.nodes, ¬ PreviewWithoutLineage node := by
  obtain ⟨document, hdocument, rfl⟩ := encodeAgentValue_ok hencode
  rw [ReadBack, decodeAgentValue_payload]
  constructor
  · rintro ⟨again, hagain, -⟩ node hnode hpreview
    exact lineageKept_of_decode registry_wellFormed hbuilt hdocument hagain node hnode
      ((losesLineage_iff node).mpr hpreview)
  · intro hkept
    exact decode_encode registry_wellFormed hbuilt
      (fun node hnode hloses => hkept node hnode ((losesLineage_iff node).mp hloses)) hdocument

/-- A payload survives being written as text and read. -/
theorem loads_payload (hbuilt : Built registry constructors value)
    (hencode : encodeAgentValue registry value = .ok payload) (ascii : Bool) :
    Json.loads (Json.dumps ascii payload) = some payload := by
  obtain ⟨document, hdocument, rfl⟩ := encodeAgentValue_ok hencode
  have hkeyed := keyed_encode registry_wellFormed hbuilt hdocument
  refine Json.loads_dumps ascii (.object (by simp) ?_)
  simp only [List.forall_mem_cons, List.not_mem_nil, false_implies, implies_true, and_true]
  exact ⟨.text _, hkeyed⟩

/-- The result payload of a decision is read back as an equal decision. -/
theorem completedDecision_resultPayload (hbuilt : Built registry constructors value)
    (hdecision : IsDecision value) {result : Json}
    (hresult : resultPayload registry value = .ok result) :
    ∃ again, completedDecision registry constructors result = .ok again ∧ Same value again := by
  obtain ⟨payload, hencode, hpayload⟩ := bind_ok.mp hresult
  cases hpayload
  obtain ⟨again, hagain, hsame⟩ := (readBack_iff hbuilt hencode).mpr hdecision.noPreview
  obtain ⟨⟨fields, rfl⟩, -⟩ := hdecision
  have hrecord := hsame
  rw [Same] at hrecord
  obtain ⟨others, rfl, -⟩ := hrecord
  refine ⟨_, ?_, hsame⟩
  simp only [completedDecision, Json.field, Json.member, ↓reduceIte, hagain, ok_bind]
  rfl

/-- Every payload survives being written as text; it is decoded to an equal value exactly where
no preview without lineage stands in the value; equal payloads stand for equal values; and what
is recorded for a decision is read back as an equal decision. -/
theorem agentValue_roundTrip {value : Value} (hbuilt : Built registry constructors value)
    {payload : Json} (hencode : encodeAgentValue registry value = .ok payload) :
    (∀ ascii, Json.loads (Json.dumps ascii payload) = some payload) ∧
    (ReadBack constructors payload value ↔
      ∀ node ∈ value.nodes, ¬ PreviewWithoutLineage node) ∧
    (∀ other, Built registry constructors other →
      encodeAgentValue registry other = .ok payload → Same value other) ∧
    (IsDecision value → ∀ result, resultPayload registry value = .ok result →
      ∃ again, completedDecision registry constructors result = .ok again ∧ Same value again) := by
  refine ⟨loads_payload hbuilt hencode, readBack_iff hbuilt hencode, fun other hother hsame => ?_,
    fun hdecision result hresult => completedDecision_resultPayload hbuilt hdecision hresult⟩
  obtain ⟨document, hdocument, rfl⟩ := encodeAgentValue_ok hencode
  obtain ⟨document', hdocument', heq⟩ := encodeAgentValue_ok hsame
  cases heq
  exact same_of_encode registry_wellFormed hbuilt hother hdocument hdocument'

end

section Rehearsed

/-- Constructors of classes without checks of their own. -/
def uncheckedConstructors : Constructors where
  construct _ fields := some fields
  construct_same _ _ again hsame _ := ⟨again, rfl, hsame⟩

/-- A decision that names a failure of its provider. -/
def rehearsedDecision : Value :=
  .record .dataclass decisionClass [
    ("code", .text "PROVIDER_FAILURE"), ("decided_at", .datetime ⟨63870000000000000, by decide⟩),
    ("thesis_version_id", .none), ("calibration", .none), ("submission_authority", .none),
    ("opportunity", .none), ("lifecycle", .none),
    ("provider_failure_code", .text "MARKET_DATA_UNAVAILABLE"),
    ("provider_failure_kind", .enum "backend.app.services.acquisition.AcquisitionKind" "LIFECYCLE"),
    ("normalized_input", .none), ("experiment_lineage", .none)]

/-- The preview of an order without legs and without a lineage. -/
def rehearsedPreview : Value :=
  .record .dataclass previewClass [
    ("intent_id", .uuid (Uuid.ofNat 1)), ("thesis_version_id", .uuid (Uuid.ofNat 2)),
    ("thesis_code", .text "THESIS"), ("strategy", .text "BULL_CALL_DEBIT"),
    ("reason_codes", .tuple [.text "ENTRY_APPROVED"]), ("risk_cap", .decimal ⟨false, 1125, 0⟩),
    ("legs", .tuple []), ("quantity", .int 5), ("limit_price", .decimal ⟨false, 225, -2⟩),
    ("maximum_loss", .decimal ⟨false, 1125, 0⟩),
    ("account_role", .enum "backend.app.contracts.v1.models.AccountRole" "SUBMISSION"),
    ("decision_id", .uuid (Uuid.ofNat 3)), ("approval_id", .uuid (Uuid.ofNat 4)),
    ("account_fingerprint", .text ""), ("book_fingerprint", .text ""), ("policy_hash", .text ""),
    ("envelope_hash", .text ""), ("decision_result_hash", .text ""), ("intent_digest", .text ""),
    ("created_at", .datetime ⟨63870000000000000, by decide⟩), ("experiment_lineage", .none)]

/-- Whether a class is a dataclass with the named fields. -/
def declares (names : List String) : Option Shape → Bool
  | some (.record .dataclass declared) => names = declared.map (·.name)
  | _ => false

/-- An instance can exist where its class declares its fields and they can. -/
theorem built_unchecked {cls : String} {fields : List (String × Value)}
    (hnames : declares (fields.map (·.1)) (lookup registry cls) = true)
    (h : ∀ pair ∈ fields, Built registry uncheckedConstructors pair.2) :
    Built registry uncheckedConstructors (.record .dataclass cls fields) := by
  refine .record (fun shape hclass => ?_) h
  rw [hclass] at hnames
  obtain _ | ⟨_ | _, declared⟩ := shape
  · cases hnames
  · exact ⟨declared, rfl, of_decide_eq_true hnames, rfl⟩
  · cases hnames

/-- Whether a class is an enumeration with a member. -/
def hasMember (value : String) : Option Shape → Bool
  | some (.enum members) => value ∈ members
  | _ => false

/-- A member of a registered enumeration can exist. -/
theorem built_enum {cls value : String} (h : hasMember value (lookup registry cls) = true) :
    Built registry uncheckedConstructors (.enum cls value) := by
  refine .enum fun shape hclass => ?_
  rw [hclass] at h
  cases shape with
  | enum members => exact ⟨members, rfl, of_decide_eq_true h⟩
  | record kind declared => cases h

/-- Whether a computation succeeds. -/
def succeeds {α : Type} : Except Failure α → Bool
  | .ok _ => true
  | .error _ => false

theorem exists_of_succeeds {α : Type} {result : Except Failure α} (h : succeeds result = true) :
    ∃ value, result = .ok value := by
  cases result with
  | ok value => exact ⟨value, rfl⟩
  | error failure => cases h

/-- The classes of the two values declare their fields and members, and the values are encoded:
one computation, as each of its parts looks classes up by their long names. -/
theorem rehearsed_checked :
    declares ["code", "decided_at", "thesis_version_id", "calibration", "submission_authority",
      "opportunity", "lifecycle", "provider_failure_code", "provider_failure_kind",
      "normalized_input", "experiment_lineage"] (lookup registry decisionClass) = true ∧
    hasMember "LIFECYCLE"
      (lookup registry "backend.app.services.acquisition.AcquisitionKind") = true ∧
    declares ["intent_id", "thesis_version_id", "thesis_code", "strategy", "reason_codes",
      "risk_cap", "legs", "quantity", "limit_price", "maximum_loss", "account_role", "decision_id",
      "approval_id", "account_fingerprint", "book_fingerprint", "policy_hash", "envelope_hash",
      "decision_result_hash", "intent_digest", "created_at", "experiment_lineage"]
      (lookup registry previewClass) = true ∧
    hasMember "SUBMISSION"
      (lookup registry "backend.app.contracts.v1.models.AccountRole") = true ∧
    succeeds (encodeAgentValue registry rehearsedDecision) = true ∧
    succeeds (encodeAgentValue registry rehearsedPreview) = true := by
  decide +kernel

theorem built_rehearsedDecision : Built registry uncheckedConstructors rehearsedDecision := by
  refine built_unchecked rehearsed_checked.1 ?_
  simp only [List.forall_mem_cons, List.not_mem_nil, false_implies, implies_true, and_true]
  exact ⟨.text _, .datetime _, .none, .none, .none, .none, .none, .text _,
    built_enum rehearsed_checked.2.1, .none, .none⟩

/-- The preview can exist. -/
theorem built_rehearsedPreview : Built registry uncheckedConstructors rehearsedPreview := by
  refine built_unchecked rehearsed_checked.2.2.1 ?_
  simp only [List.forall_mem_cons, List.not_mem_nil, false_implies, implies_true, and_true]
  refine ⟨.uuid _, .uuid _, .text _, .text _, .tuple ?_, .decimal _, .tuple ?_, .int _, .decimal _,
    .decimal _, built_enum rehearsed_checked.2.2.2.1, .uuid _, .uuid _, .text _, .text _, .text _,
    .text _, .text _, .text _, .datetime _, .none⟩
  · simp only [List.forall_mem_cons, List.not_mem_nil, false_implies, implies_true, and_true]
    exact .text _
  · exact fun item hitem => absurd hitem List.not_mem_nil

theorem rehearsedDecision_noPreview :
    ∀ node ∈ rehearsedDecision.nodes, ¬ PreviewWithoutLineage node := by
  intro node hnode hpreview
  simp only [rehearsedDecision, Value.nodes, nodesOfFields, List.cons_append, List.nil_append,
    List.mem_cons, List.not_mem_nil, or_false] at hnode
  rcases hnode with rfl | rfl | rfl | rfl | rfl | rfl | rfl | rfl | rfl | rfl | rfl | rfl
  · exact absurd hpreview.1 (by decide +kernel)
  all_goals exact hpreview

/-- In the rehearsal the payload of the decision survives being written as text and is decoded
to an equal decision. -/
theorem agentValue_roundTrip_rehearsed :
    ∃ payload, encodeAgentValue registry rehearsedDecision = .ok payload ∧
      Json.loads (Json.dumps true payload) = some payload ∧
      ReadBack uncheckedConstructors payload rehearsedDecision := by
  obtain ⟨payload, hpayload⟩ : ∃ payload, encodeAgentValue registry rehearsedDecision =
      .ok payload := exists_of_succeeds rehearsed_checked.2.2.2.2.1
  obtain ⟨hloads, hback, -⟩ := agentValue_roundTrip built_rehearsedDecision hpayload
  refine ⟨payload, hpayload, hloads true, hback.mpr rehearsedDecision_noPreview⟩

/-- A preview without lineage is encoded, and its payload is not decoded. -/
theorem preview_notReadBack :
    ∃ payload, encodeAgentValue registry rehearsedPreview = .ok payload ∧
      Built registry uncheckedConstructors rehearsedPreview ∧
      ¬ ReadBack uncheckedConstructors payload rehearsedPreview := by
  obtain ⟨payload, hpayload⟩ : ∃ payload, encodeAgentValue registry rehearsedPreview =
      .ok payload := exists_of_succeeds rehearsed_checked.2.2.2.2.2
  refine ⟨payload, hpayload, built_rehearsedPreview, fun hback => ?_⟩
  refine (readBack_iff built_rehearsedPreview hpayload).mp hback _ (self_mem_nodes _) ⟨rfl, ?_⟩
  simp [lineageField]

end Rehearsed

end AlphaDecay.AgentCodec
