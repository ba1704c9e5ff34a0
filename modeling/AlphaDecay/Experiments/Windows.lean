import AlphaDecay.Foundation.Calendar
import AlphaDecay.Foundation.Grouping
import Mathlib.Data.Prod.Lex

/-!
# Windows of experiments

The windows of the plans are listed with the latest first, and windows of one protocol that were
aborted within a minute of one another are shown as the latest of them, with the versions of all.
`collapse_lossless` says what a collapse keeps: every plan version, every other window, and for each
window that is shown the burst that it stands for. A second collapse changes nothing where the
windows are told apart by their times and versions.
-/

namespace AlphaDecay.Experiments

open Foundation Foundation.Grouping

/-! ## Values -/

structure ExperimentWindowProtocol where
  name : String
  summary : String
deriving DecidableEq

structure ExperimentWindowInterval where
  opensAt : Int
  closesAt : Int
  ordered : opensAt ≤ closesAt
deriving DecidableEq

/-- How a window stands. -/
inductive WindowStatus where
  | pending
  | opened
  | decided
  | aborted
deriving DecidableEq, Repr

/-- A window of an experiment. The decision, the lifecycle and the outcome of its tick are carried
along as its details. -/
structure ExperimentWindow (δ : Type) where
  planVersion : Nat
  protocol : ExperimentWindowProtocol
  frozenAt : Int
  decisionBoundary : Int
  entryWindow : ExperimentWindowInterval
  status : WindowStatus
  abortedReason : Option String
  collapsedVersions : List Nat
  details : δ
  positive : 0 < planVersion
  chronology : frozenAt ≤ decisionBoundary
  opens : decisionBoundary = entryWindow.opensAt
  aborts : status = .aborted ↔ abortedReason.isSome = true
deriving DecidableEq

variable {δ : Type}

/-- The time at which a plan was frozen, and its version. -/
def ExperimentWindow.frozenKey (window : ExperimentWindow δ) : Int ×ₗ Nat :=
  toLex (window.frozenAt, window.planVersion)

/-- The boundary of a window, the time at which its plan was frozen, and the version. -/
def ExperimentWindow.boundaryKey (window : ExperimentWindow δ) : Int ×ₗ Int ×ₗ Nat :=
  toLex (window.decisionBoundary, window.frozenKey)

/-! ## Collapsing -/

/-- A window joins the burst of the one before when both were aborted, within a minute. -/
def joinsBurst (last window : ExperimentWindow δ) : Bool :=
  decide (window.status = .aborted) && decide (last.status = .aborted) &&
    decide (window.frozenAt - last.frozenAt ≤ Calendar.seconds 60)

/-- What is shown of a burst: its latest window, with the versions of all. -/
def collapseBurst (burst : List (ExperimentWindow δ)) : List (ExperimentWindow δ) :=
  if burst.length < 2 || !burst.head?.any (fun first => first.status = .aborted) then burst
  else match burst.getLast? with
    | some latest => [{ latest with collapsedVersions := burst.map (·.planVersion) }]
    | none => []

def collapseProtocol (windows : List (ExperimentWindow δ)) : List (ExperimentWindow δ) :=
  flushChains joinsBurst collapseBurst [] (sortedBy ExperimentWindow.frozenKey windows)

/-- What is shown of the windows of all protocols, before it is sorted. -/
def collapsedWindows (windows : List (ExperimentWindow δ)) : List (ExperimentWindow δ) :=
  (groupsBy (fun window => window.protocol.name) windows).flatMap fun entry =>
    collapseProtocol entry.2

/-- The windows that are shown, the latest first. -/
def collapseAbortedWindows (windows : List (ExperimentWindow δ)) : List (ExperimentWindow δ) :=
  sortedDownBy ExperimentWindow.boundaryKey (collapsedWindows windows)

/-! ## Bursts -/

def burstsOf (windows : List (ExperimentWindow δ)) : List (List (ExperimentWindow δ)) :=
  (sortedBy ExperimentWindow.frozenKey windows).splitBy joinsBurst

/-- Windows of a burst were frozen one after another, at most a minute apart. -/
def FrozenWithin (last window : ExperimentWindow δ) : Prop :=
  last.frozenAt ≤ window.frozenAt ∧ window.frozenAt - last.frozenAt ≤ Calendar.seconds 60

/-- A window stands for a burst: it is the latest of its windows with the versions of all, and a
burst of several windows has only aborted ones, of one protocol, each frozen within a minute of the
one before. -/
structure StandsFor (window : ExperimentWindow δ) (burst : List (ExperimentWindow δ)) : Prop where
  latest : ∃ latest, burst.getLast? = some latest ∧
    window = { latest with collapsedVersions := burst.map (·.planVersion) }
  several : burst.length = 1 ∨
    (∀ item ∈ burst, item.status = .aborted ∧ item.protocol.name = window.protocol.name) ∧
      burst.IsChain FrozenWithin

theorem joinsBurst_iff {last window : ExperimentWindow δ} :
    joinsBurst last window = true ↔ window.status = .aborted ∧ last.status = .aborted ∧
      window.frozenAt - last.frozenAt ≤ Calendar.seconds 60 := by
  simp only [joinsBurst, Bool.and_eq_true, decide_eq_true_iff, and_assoc]

theorem aborted_of_isChain {first : ExperimentWindow δ} {rest : List (ExperimentWindow δ)}
    (h : (first :: rest).IsChain fun left right => joinsBurst left right = true)
    (hfirst : first.status = .aborted) :
    ∀ item ∈ first :: rest, item.status = .aborted := by
  induction rest generalizing first with
  | nil =>
      intro item hitem
      obtain rfl := List.mem_singleton.mp hitem
      exact hfirst
  | cons second rest ih =>
      obtain ⟨hjoins, hrest⟩ := List.isChain_cons_cons.mp h
      intro item hitem
      rcases List.mem_cons.mp hitem with rfl | hitem
      · exact hfirst
      · exact ih hrest (joinsBurst_iff.mp hjoins).1 item hitem

variable {burst : List (ExperimentWindow δ)}

/-- What is shown of a chain of windows: the only one, or the latest of several aborted ones. -/
theorem collapseBurst_eq (hne : burst ≠ [])
    (hchain : burst.IsChain fun left right => joinsBurst left right = true) :
    (∃ window, burst = [window] ∧ collapseBurst burst = [window]) ∨
      (∀ item ∈ burst, item.status = .aborted) ∧ ∃ latest, burst.getLast? = some latest ∧
        collapseBurst burst =
          [{ latest with collapsedVersions := burst.map (·.planVersion) }] := by
  obtain ⟨first, rest, rfl⟩ := List.exists_cons_of_ne_nil hne
  cases rest with
  | nil => exact .inl ⟨first, rfl, rfl⟩
  | cons second rest =>
      obtain ⟨hjoins, -⟩ := List.isChain_cons_cons.mp hchain
      have hfirst := (joinsBurst_iff.mp hjoins).2.1
      refine .inr ⟨aborted_of_isChain hchain hfirst, ?_⟩
      obtain ⟨latest, hlatest⟩ : ∃ latest, (first :: second :: rest).getLast? = some latest :=
        ⟨_, List.getLast?_eq_getLast_of_ne_nil hne⟩
      refine ⟨latest, hlatest, ?_⟩
      unfold collapseBurst
      rw [if_neg (by simp [hfirst]), hlatest]

/-! ## What the bursts are shown as -/

/-- A window represents a burst: it is the latest of its windows but for the versions, and either
the only one or aborted as all of them. -/
structure Represents (window : ExperimentWindow δ) (burst : List (ExperimentWindow δ)) : Prop where
  latest : ∃ latest versions, burst.getLast? = some latest ∧
    window = { latest with collapsedVersions := versions }
  aborted : burst = [window] ∨ ∀ item ∈ burst, item.status = .aborted

theorem exists_represents (hne : burst ≠ [])
    (hchain : burst.IsChain fun left right => joinsBurst left right = true) :
    ∃ window, collapseBurst burst = [window] ∧ Represents window burst := by
  rcases collapseBurst_eq hne hchain with
    ⟨window, rfl, hshown⟩ | ⟨haborted, latest, hlatest, hshown⟩
  · exact ⟨window, hshown, ⟨window, window.collapsedVersions, rfl, rfl⟩, .inl rfl⟩
  · exact ⟨_, hshown, ⟨latest, _, hlatest, rfl⟩, .inr haborted⟩

section Bursts

variable {windows : List (ExperimentWindow δ)} {burst : List (ExperimentWindow δ)}

theorem flatten_burstsOf (windows : List (ExperimentWindow δ)) :
    (burstsOf windows).flatten = sortedBy ExperimentWindow.frozenKey windows :=
  List.flatten_splitBy _ _

theorem collapseProtocol_eq (windows : List (ExperimentWindow δ)) :
    collapseProtocol windows = (burstsOf windows).flatMap collapseBurst :=
  flushChains_nil rfl _

theorem mem_of_mem_burst (h : burst ∈ burstsOf windows) {window : ExperimentWindow δ}
    (hwindow : window ∈ burst) : window ∈ windows := by
  refine (sortedBy_perm ExperimentWindow.frozenKey windows).mem_iff.mp ?_
  rw [← flatten_burstsOf]
  exact List.mem_flatten.mpr ⟨burst, h, hwindow⟩

theorem pairwise_of_mem_burstsOf (h : burst ∈ burstsOf windows) :
    burst.Pairwise fun left right => left.frozenKey ≤ right.frozenKey := by
  have hsorted := sortedBy_pairwise ExperimentWindow.frozenKey windows
  rw [← flatten_burstsOf] at hsorted
  exact hsorted.sublist (List.sublist_flatten_of_mem h)

theorem represents_of_mem (h : burst ∈ burstsOf windows) :
    ∃ window, collapseBurst burst = [window] ∧ Represents window burst :=
  exists_represents (List.ne_nil_of_mem_splitBy h) (List.isChain_of_mem_splitBy h)

theorem frozenAt_le_of_frozenKey_le {first second : ExperimentWindow δ}
    (h : first.frozenKey ≤ second.frozenKey) : first.frozenAt ≤ second.frozenAt := by
  rcases Prod.Lex.toLex_le_toLex.mp h with hlt | ⟨heq, -⟩
  · exact hlt.le
  · exact heq.le

/-- What is shown of a burst of windows with their own versions stands for it. -/
theorem standsFor_of_mem (h : burst ∈ burstsOf windows)
    (hfresh : ∀ window ∈ windows, window.collapsedVersions = [window.planVersion]) {name : String}
    (hname : ∀ window ∈ windows, window.protocol.name = name) :
    ∃ window, collapseBurst burst = [window] ∧ StandsFor window burst := by
  have hchain := List.isChain_of_mem_splitBy h
  rcases collapseBurst_eq (List.ne_nil_of_mem_splitBy h) hchain with
    ⟨window, rfl, hshown⟩ | ⟨haborted, latest, hlatest, hshown⟩
  · refine ⟨window, hshown, ⟨window, rfl, ?_⟩, .inl rfl⟩
    have hversions := hfresh window (mem_of_mem_burst h (by simp))
    show window = { window with collapsedVersions := [window.planVersion] }
    rw [← hversions]
  · refine ⟨_, hshown, ⟨latest, hlatest, rfl⟩,
      .inr ⟨fun item hitem => ⟨haborted item hitem, ?_⟩, ?_⟩⟩
    · have hlast := mem_of_mem_burst h (List.mem_of_getLast? hlatest)
      rw [hname item (mem_of_mem_burst h hitem), hname latest hlast]
    · have hsorted := (pairwise_of_mem_burstsOf h).isChain
      rw [List.isChain_iff_forall_rel_of_append_cons_cons] at hchain hsorted ⊢
      intro left right before after hsplit
      exact ⟨frozenAt_le_of_frozenKey_le (hsorted hsplit),
        (joinsBurst_iff.mp (hchain hsplit)).2.2⟩

/-- A field that a collapse leaves alone comes from the windows in their order. -/
theorem map_collapse_sublist {β : Type} (field : ExperimentWindow δ → β)
    (hfield : ∀ window versions,
      field { window with collapsedVersions := versions } = field window)
    {bursts : List (List (ExperimentWindow δ))}
    (h : ∀ burst ∈ bursts, ∃ window, collapseBurst burst = [window] ∧ Represents window burst) :
    ((bursts.flatMap collapseBurst).map field).Sublist (bursts.flatten.map field) := by
  induction bursts with
  | nil => exact .slnil
  | cons burst bursts ih =>
      obtain ⟨window, hshown, ⟨latest, versions, hlatest, rfl⟩, -⟩ := h burst (by simp)
      rw [List.flatMap_cons, List.flatten_cons, hshown, List.map_append, List.map_append]
      refine List.Sublist.append ?_ (ih fun other hother => h other (by simp [hother]))
      rw [List.map_singleton, hfield]
      exact List.singleton_sublist.mpr (List.mem_map_of_mem (List.mem_of_getLast? hlatest))

/-- The keys of what is shown of a protocol are keys of its windows, in order. -/
theorem pairwise_collapseProtocol (windows : List (ExperimentWindow δ)) :
    (collapseProtocol windows).Pairwise fun left right => left.frozenKey ≤ right.frozenKey := by
  have hsublist := map_collapse_sublist ExperimentWindow.frozenKey (fun _ _ => rfl)
    fun burst (hburst : burst ∈ burstsOf windows) => represents_of_mem hburst
  rw [← collapseProtocol_eq, flatten_burstsOf] at hsublist
  have hsorted := sortedBy_pairwise ExperimentWindow.frozenKey windows
  have hkeys := (List.pairwise_map.mpr hsorted).sublist hsublist
  exact List.pairwise_map.mp hkeys

/-- What is shown of two bursts that follow one another does not join. -/
theorem not_joinsBurst_of_represents {left right : List (ExperimentWindow δ)}
    {first second : ExperimentWindow δ} (hfirst : Represents first left)
    (hsecond : Represents second right)
    (hsorted : right.Pairwise fun left right => left.frozenKey ≤ right.frozenKey)
    (hcut : ∃ hleft hright, joinsBurst (left.getLast hleft) (right.head hright) = false) :
    joinsBurst first second = false := by
  obtain ⟨hleft, hright, hcut⟩ := hcut
  obtain ⟨⟨last, versions, hlast, rfl⟩, -⟩ := hfirst
  obtain ⟨⟨latest, versions', hlatest, hsame⟩, haborted⟩ := hsecond
  rw [List.getLast?_eq_some_getLast hleft] at hlast
  obtain rfl := Option.some.inj hlast
  rw [List.getLast?_eq_some_getLast hright] at hlatest
  obtain rfl := Option.some.inj hlatest
  by_contra hjoins
  obtain ⟨hstatus, hstatus', hgap⟩ := joinsBurst_iff.mp (Bool.not_eq_false _ ▸ hjoins)
  rw [hsame] at hstatus hgap
  -- the first window of the later burst was aborted as well, and is no further away
  have hheadStatus : (right.head hright).status = .aborted := by
    rcases haborted with hsingle | hall
    · subst hsingle
      rw [← hsame] at hstatus
      exact hstatus
    · exact hall _ (List.head_mem hright)
  have hheadFrozen : (right.head hright).frozenAt ≤ (right.getLast hright).frozenAt := by
    obtain ⟨head, rest, rfl⟩ := List.exists_cons_of_ne_nil hright
    rw [List.head_cons]
    rcases List.mem_cons.mp (List.getLast_mem hright) with heq | hmem
    · rw [heq]
    · exact frozenAt_le_of_frozenKey_le ((List.pairwise_cons.mp hsorted).1 _ hmem)
  have hjoined : joinsBurst (left.getLast hleft) (right.head hright) = true :=
    joinsBurst_iff.mpr ⟨hheadStatus, hstatus', by dsimp only at hgap; omega⟩
  rw [hjoined] at hcut
  cases hcut

/-- What is shown of a protocol is shown as it is. -/
theorem collapseProtocol_idem (windows : List (ExperimentWindow δ)) :
    collapseProtocol (collapseProtocol windows) = collapseProtocol windows := by
  have hsorted : sortedBy ExperimentWindow.frozenKey (collapseProtocol windows) =
      collapseProtocol windows := (pairwise_collapseProtocol windows).insertionSort_eq
  have hchain : (collapseProtocol windows).IsChain fun left right =>
      joinsBurst left right = false := by
    rw [collapseProtocol_eq]
    refine isChain_of_forall₂ (forall₂_flatMap fun burst hburst => represents_of_mem hburst)
      (List.isChain_getLast_head_splitBy joinsBurst _) ?_
    intro first second left right _ hright hfirst hsecond hcut
    exact not_joinsBurst_of_represents hfirst hsecond (pairwise_of_mem_burstsOf hright) hcut
  rw [collapseProtocol_eq (collapseProtocol windows), burstsOf, hsorted,
    splitBy_eq_singletons hchain, List.flatMap_map]
  exact List.flatMap_singleton' _

end Bursts

/-! ## All protocols -/

def allBursts (windows : List (ExperimentWindow δ)) : List (List (ExperimentWindow δ)) :=
  (groupsBy (fun window => window.protocol.name) windows).flatMap fun entry => burstsOf entry.2

/-- The windows of one protocol are told apart by the times at which they were frozen and their
versions. -/
def DistinctWithin (windows : List (ExperimentWindow δ)) : Prop :=
  ∀ name, ((windows.filter fun window => window.protocol.name = name).map
    ExperimentWindow.frozenKey).Nodup

section Collapsing

variable {windows windows' : List (ExperimentWindow δ)}

variable {burst : List (ExperimentWindow δ)}

theorem collapsedWindows_eq (windows : List (ExperimentWindow δ)) :
    collapsedWindows windows = (allBursts windows).flatMap collapseBurst := by
  unfold collapsedWindows allBursts
  rw [List.flatMap_assoc]
  exact List.flatMap_congr fun entry _ => collapseProtocol_eq entry.2

theorem flatten_allBursts_perm (windows : List (ExperimentWindow δ)) :
    (allBursts windows).flatten.Perm windows := by
  refine List.Perm.trans ?_ (groupsBy_perm (fun window => window.protocol.name) windows)
  unfold allBursts
  rw [← List.flatMap_id', List.flatMap_assoc]
  refine List.Perm.flatMap_left _ fun entry _ => ?_
  rw [List.flatMap_id', flatten_burstsOf]
  exact sortedBy_perm _ _

theorem exists_protocol_of_mem (h : burst ∈ allBursts windows) :
    ∃ name, burst ∈ burstsOf (windows.filter fun window => window.protocol.name = name) := by
  obtain ⟨entry, hentry, hburst⟩ := List.mem_flatMap.mp h
  rw [(groupsOf_groupsBy _ windows).groups entry hentry] at hburst
  exact ⟨entry.1, hburst⟩

theorem represents_of_mem_allBursts (h : burst ∈ allBursts windows) :
    ∃ window, collapseBurst burst = [window] ∧ Represents window burst := by
  obtain ⟨name, hburst⟩ := exists_protocol_of_mem h
  exact represents_of_mem hburst

/-- Every window that is shown stands for a burst, and the bursts hold all windows. -/
theorem exists_standsFor
    (hfresh : ∀ window ∈ windows, window.collapsedVersions = [window.planVersion]) :
    ∃ bursts, List.Forall₂ StandsFor (collapseAbortedWindows windows) bursts ∧
      bursts.flatten.Perm windows := by
  have hstands : List.Forall₂ StandsFor (collapsedWindows windows) (allBursts windows) := by
    rw [collapsedWindows_eq]
    refine forall₂_flatMap fun burst hburst => ?_
    obtain ⟨name, hburst⟩ := exists_protocol_of_mem hburst
    have hname : ∀ window ∈ windows.filter fun window => window.protocol.name = name,
        window.protocol.name = name :=
      fun window hwindow => of_decide_eq_true (List.mem_filter.mp hwindow).2
    exact standsFor_of_mem hburst
      (fun window hwindow => hfresh window (List.mem_filter.mp hwindow).1) hname
  obtain ⟨bursts, hshown, hperm⟩ := List.perm_comp_forall₂
    (sortedDownBy_perm ExperimentWindow.boundaryKey (collapsedWindows windows)) hstands
  exact ⟨bursts, hshown, hperm.flatten.trans (flatten_allBursts_perm windows)⟩

/-- The keys of what is shown are keys of the windows. -/
theorem nodup_map_collapsedWindows {β : Type} {field : ExperimentWindow δ → β}
    (hfield : ∀ window versions,
      field { window with collapsedVersions := versions } = field window)
    (h : (windows.map field).Nodup) : ((collapsedWindows windows).map field).Nodup := by
  rw [collapsedWindows_eq]
  exact (((flatten_allBursts_perm windows).map field).nodup_iff.mpr h).sublist
    (map_collapse_sublist field hfield fun burst hburst => represents_of_mem_allBursts hburst)

theorem collapseProtocol_eq_of_perm (hdistinct : (windows.map ExperimentWindow.frozenKey).Nodup)
    (hperm : windows.Perm windows') : collapseProtocol windows = collapseProtocol windows' := by
  unfold collapseProtocol
  rw [sortedBy_eq_of_perm hdistinct hperm]

theorem distinctWithin_of_nodup (h : (windows.map ExperimentWindow.frozenKey).Nodup) :
    DistinctWithin windows :=
  fun _ => h.sublist (List.filter_sublist.map _)

/-- Windows that are told apart by their times and versions are so with their boundaries. -/
theorem nodup_boundaryKey (h : (windows.map ExperimentWindow.frozenKey).Nodup) :
    (windows.map ExperimentWindow.boundaryKey).Nodup := by
  have hmap : windows.map ExperimentWindow.frozenKey =
      (windows.map ExperimentWindow.boundaryKey).map fun key => (ofLex key).2 := by
    rw [List.map_map]
    rfl
  rw [hmap] at h
  exact h.of_map _

/-- The order of windows that are told apart does not matter for what is shown. -/
theorem collapse_eq_of_perm (hperm : windows'.Perm windows)
    (hdistinct : (windows.map ExperimentWindow.frozenKey).Nodup) :
    collapseAbortedWindows windows' = collapseAbortedWindows windows := by
  have hshown : (collapsedWindows windows').Perm (collapsedWindows windows) := by
    refine perm_flatMap_groups hperm fun name => ?_
    have hfilter := hperm.filter fun window => decide (window.protocol.name = name)
    exact (collapseProtocol_eq_of_perm (distinctWithin_of_nodup hdistinct name) hfilter.symm).symm
  exact (sortedDownBy_eq_of_perm (nodup_map_collapsedWindows (fun _ _ => rfl)
    (nodup_boundaryKey hdistinct)) hshown.symm).symm

theorem name_of_mem_collapseProtocol {name : String} {window : ExperimentWindow δ}
    (h : window ∈ collapseProtocol (windows.filter fun other => other.protocol.name = name)) :
    window.protocol.name = name := by
  rw [collapseProtocol_eq] at h
  obtain ⟨burst, hburst, hwindow⟩ := List.mem_flatMap.mp h
  obtain ⟨shown, hshown, ⟨latest, versions, hlatest, rfl⟩, -⟩ := represents_of_mem hburst
  rw [hshown] at hwindow
  obtain rfl := List.mem_singleton.mp hwindow
  have hmem := mem_of_mem_burst hburst (List.mem_of_getLast? hlatest)
  exact of_decide_eq_true (List.mem_filter.mp hmem).2

/-- What is shown of the windows of a protocol that are shown: just these. -/
theorem collapseProtocol_filter_perm (hdistinct : DistinctWithin windows) (name : String) :
    (collapseProtocol ((collapseAbortedWindows windows).filter
      fun window => window.protocol.name = name)).Perm
        ((collapseAbortedWindows windows).filter fun window => window.protocol.name = name) := by
  have hfilter : ((collapseAbortedWindows windows).filter
      fun window => window.protocol.name = name).Perm
        (collapseProtocol (windows.filter fun window => window.protocol.name = name)) := by
    rw [← filter_flatMap_groups (fun window => window.protocol.name) rfl
      (fun name window hwindow => name_of_mem_collapseProtocol hwindow) name]
    exact (sortedDownBy_perm _ _).filter _
  have hkeys : ((collapseProtocol (windows.filter fun window => window.protocol.name = name)).map
      ExperimentWindow.frozenKey).Nodup := by
    have hsublist := map_collapse_sublist ExperimentWindow.frozenKey (fun _ _ => rfl)
      fun burst (hburst : burst ∈ burstsOf
        (windows.filter fun window => window.protocol.name = name)) => represents_of_mem hburst
    rw [← collapseProtocol_eq, flatten_burstsOf] at hsublist
    exact (((sortedBy_perm _ _).map _).nodup_iff.mpr (hdistinct name)).sublist hsublist
  rw [← collapseProtocol_eq_of_perm hkeys hfilter.symm, collapseProtocol_idem]
  exact hfilter.symm

/-- A second collapse shows the same windows. -/
theorem collapse_collapse_perm (hdistinct : DistinctWithin windows) :
    (collapseAbortedWindows (collapseAbortedWindows windows)).Perm
      (collapseAbortedWindows windows) := by
  refine (sortedDownBy_perm _ _).trans ?_
  have hgroups := groupsOf_groupsBy (fun window : ExperimentWindow δ => window.protocol.name)
    (collapseAbortedWindows windows)
  unfold collapsedWindows
  rw [flatMap_groups hgroups]
  refine (List.Perm.flatMap_left _ fun name _ => collapseProtocol_filter_perm hdistinct name).trans
    ?_
  exact flatMap_filter_perm hgroups.distinct fun window hwindow =>
    (hgroups.keys _).mpr ⟨window, hwindow, rfl⟩

/-- A second collapse changes nothing where the windows are told apart by their boundaries, times
and versions. -/
theorem collapse_collapse_eq (hdistinct : DistinctWithin windows)
    (hkeys : (windows.map ExperimentWindow.boundaryKey).Nodup) :
    collapseAbortedWindows (collapseAbortedWindows windows) = collapseAbortedWindows windows := by
  have hshown : ((collapseAbortedWindows windows).map ExperimentWindow.boundaryKey).Nodup :=
    ((sortedDownBy_perm _ _).map _).nodup_iff.mpr
      (nodup_map_collapsedWindows (fun _ _ => rfl) hkeys)
  have hperm := collapse_collapse_perm hdistinct
  exact eq_of_perm_of_sortedDown ((hperm.map _).nodup_iff.mpr hshown) hperm
    (sortedDownBy_pairwise _ _) (sortedDownBy_pairwise _ _)

end Collapsing

/-! ## Nothing is lost -/

section

variable {shown : List (ExperimentWindow δ)} {bursts : List (List (ExperimentWindow δ))}

theorem versions_of_standsFor (h : List.Forall₂ StandsFor shown bursts) :
    shown.flatMap (·.collapsedVersions) = bursts.flatten.map (·.planVersion) := by
  induction h with
  | nil => rfl
  | cons hfirst hrest ih =>
      obtain ⟨latest, hlatest, rfl⟩ := hfirst.latest
      rw [List.flatMap_cons, List.flatten_cons, List.map_append, ih]

/-- What is shown and was not aborted is what of the bursts was not aborted. -/
theorem unaborted_of_standsFor (h : List.Forall₂ StandsFor shown bursts)
    (hfresh : ∀ burst ∈ bursts, ∀ window ∈ burst,
      window.collapsedVersions = [window.planVersion]) :
    (shown.filter fun window => window.status ≠ .aborted) =
      bursts.flatten.filter fun window => window.status ≠ .aborted := by
  induction h with
  | nil => rfl
  | @cons window burst shown bursts hfirst hrest ih =>
      have hsame : ([window].filter fun window => window.status ≠ .aborted) =
          burst.filter fun window => window.status ≠ .aborted := by
        obtain ⟨latest, hlatest, hwindow⟩ := hfirst.latest
        rcases hfirst.several with hone | ⟨haborted, -⟩
        · obtain ⟨item, rfl⟩ := List.length_eq_one_iff.mp hone
          obtain rfl := Option.some.inj hlatest
          have hversions := hfresh [item] (by simp) item (by simp)
          have hitem : window = item := by
            rw [hwindow]
            show { item with collapsedVersions := [item.planVersion] } = item
            rw [← hversions]
          rw [hitem]
        · have hstatus : window.status = .aborted := by
            rw [hwindow]
            exact (haborted latest (List.mem_of_getLast? hlatest)).1
          have hnone : burst.filter (fun window => window.status ≠ .aborted) = [] := by
            rw [List.filter_eq_nil_iff]
            intro item hitem
            simpa using (haborted item hitem).1
          rw [hnone]
          simp [hstatus]
      rw [← List.singleton_append, List.filter_append, List.flatten_cons, List.filter_append, hsame,
        ih fun other hother => hfresh other (List.mem_cons_of_mem _ hother)]

/-- A collapse of windows that have their own versions only loses nothing. Every plan version is
shown once, every window that was not aborted is shown as it is, and every window that is shown
stands for itself or for aborted windows of one protocol, each frozen within a minute of the one
before. The order of windows that are told apart by their times and versions does not matter. A
second collapse shows the same windows where they are told apart so within each protocol, and
changes nothing where they are told apart by their boundaries, times and versions besides. -/
theorem collapse_lossless {windows : List (ExperimentWindow δ)}
    (hfresh : ∀ window ∈ windows, window.collapsedVersions = [window.planVersion]) :
    ((collapseAbortedWindows windows).flatMap (·.collapsedVersions)).Perm
        (windows.map (·.planVersion)) ∧
      ((collapseAbortedWindows windows).filter fun window => window.status ≠ .aborted).Perm
        (windows.filter fun window => window.status ≠ .aborted) ∧
      (∃ bursts, List.Forall₂ StandsFor (collapseAbortedWindows windows) bursts ∧
        bursts.flatten.Perm windows) ∧
      (∀ windows', windows'.Perm windows → (windows.map ExperimentWindow.frozenKey).Nodup →
        collapseAbortedWindows windows' = collapseAbortedWindows windows) ∧
      (DistinctWithin windows → (collapseAbortedWindows (collapseAbortedWindows windows)).Perm
        (collapseAbortedWindows windows)) ∧
      (DistinctWithin windows → (windows.map ExperimentWindow.boundaryKey).Nodup →
        collapseAbortedWindows (collapseAbortedWindows windows) =
          collapseAbortedWindows windows) := by
  obtain ⟨bursts, hstands, hperm⟩ := exists_standsFor hfresh
  refine ⟨?_, ?_, ⟨bursts, hstands, hperm⟩, fun _ => collapse_eq_of_perm, collapse_collapse_perm,
    collapse_collapse_eq⟩
  · rw [versions_of_standsFor hstands]
    exact hperm.map _
  · rw [unaborted_of_standsFor hstands fun burst hburst window hwindow =>
      hfresh window (hperm.mem_iff.mp (List.mem_flatten.mpr ⟨burst, hburst, hwindow⟩))]
    exact hperm.filter _

end

section Rehearsed

/-- A window of a rehearsal, by its protocol, its version, the time at which its plan was frozen,
its boundary and how it stands. -/
def rehearsedWindow (name : String) (version frozen boundary : Nat) (status : WindowStatus)
    (hversion : 0 < version) (hfrozen : frozen ≤ boundary) : ExperimentWindow Unit where
  planVersion := version
  protocol := ⟨name, "Rehearsal."⟩
  frozenAt := frozen
  decisionBoundary := boundary
  entryWindow := ⟨boundary, boundary, le_rfl⟩
  status := status
  abortedReason := if status = .aborted then some "ABORTED" else none
  collapsedVersions := [version]
  details := ()
  positive := hversion
  chronology := by exact_mod_cast hfrozen
  opens := rfl
  aborts := by cases status <;> simp

/-- Two windows of one protocol that were aborted within a minute, and a decided one. -/
def abortedWindows : List (ExperimentWindow Unit) :=
  [rehearsedWindow "A" 1 0 0 .aborted (by decide) (by decide),
    rehearsedWindow "A" 3 3 3 .decided (by decide) (by decide),
    rehearsedWindow "A" 2 1 1 .aborted (by decide) (by decide)]

/-- Windows of two protocols, of which two have the same boundary, time and version. -/
def tiedWindows : List (ExperimentWindow Unit) :=
  [rehearsedWindow "A" 1 0 0 .decided (by decide) (by decide),
    rehearsedWindow "B" 1 0 0 .decided (by decide) (by decide),
    rehearsedWindow "B" 2 1 1 .decided (by decide) (by decide)]

/-- Windows of one protocol, of which two have the same time and version. -/
def tiedWithin : List (ExperimentWindow Unit) :=
  [rehearsedWindow "A" 1 0 1 .aborted (by decide) (by decide),
    rehearsedWindow "A" 2 1 2 .decided (by decide) (by decide),
    rehearsedWindow "A" 2 1 3 .aborted (by decide) (by decide)]

/-- In the rehearsal the collapse of two aborted windows keeps their versions and the decided
window. -/
theorem collapse_lossless_rehearsed :
    ((collapseAbortedWindows abortedWindows).flatMap (·.collapsedVersions)).Perm [1, 3, 2] ∧
      collapseAbortedWindows (collapseAbortedWindows abortedWindows) =
        collapseAbortedWindows abortedWindows := by
  have hfresh : ∀ window ∈ abortedWindows, window.collapsedVersions = [window.planVersion] := by
    simp [abortedWindows, rehearsedWindow]
  have hkeys : (abortedWindows.map ExperimentWindow.frozenKey).Nodup := by decide
  have h := collapse_lossless hfresh
  exact ⟨h.1, h.2.2.2.2.2 (distinctWithin_of_nodup hkeys) (nodup_boundaryKey hkeys)⟩

/-- A second collapse changes the order of windows that are told apart by nothing but their
protocols, and collapses windows of one protocol that are not told apart by their times and
versions. -/
theorem exists_collapse_collapse_ne :
    (∃ windows : List (ExperimentWindow Unit),
      (∀ window ∈ windows, window.collapsedVersions = [window.planVersion]) ∧
        DistinctWithin windows ∧
        collapseAbortedWindows (collapseAbortedWindows windows) ≠
          collapseAbortedWindows windows) ∧
      ∃ windows : List (ExperimentWindow Unit),
        (∀ window ∈ windows, window.collapsedVersions = [window.planVersion]) ∧
          ¬(collapseAbortedWindows (collapseAbortedWindows windows)).Perm
            (collapseAbortedWindows windows) := by
  refine ⟨⟨tiedWindows, by simp [tiedWindows, rehearsedWindow], ?_, ?_⟩,
    ⟨tiedWithin, by simp [tiedWithin, rehearsedWindow], ?_⟩⟩
  · intro name
    by_cases hfirst : "A" = name
    · subst hfirst
      decide +kernel
    · by_cases hsecond : "B" = name
      · subst hsecond
        decide +kernel
      · have hnone : (tiedWindows.filter fun window => window.protocol.name = name) = [] := by
          simp [tiedWindows, rehearsedWindow, hfirst, hsecond]
        rw [hnone]
        exact List.nodup_nil
  · intro hsame
    have hnames := congrArg (List.map fun window => window.protocol.name) hsame
    revert hnames
    decide +kernel
  · intro hperm
    have hlength := hperm.length_eq
    revert hlength
    decide +kernel

end Rehearsed

end AlphaDecay.Experiments
