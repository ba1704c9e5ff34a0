import AlphaDecay.Performance.Runs

/-!
# What the last publication commits to

The hash in the proof of the last publication of a store that verifies, whoever wrote the store,
determines the boundaries, snapshots and projections of all its publications, up to a collision
among their documents.
-/

namespace AlphaDecay.Performance

open Foundation

section Committed

variable [Digest] {store other : PerformanceStore} {row found : PerformancePublicationRow}
  {latest result last : Option (PerformancePublicationRow × CompetitionPerformanceProofResponse)}
  {rows others : List PerformancePublicationRow}

/-- The document whose hash a publication has. -/
def PerformancePublicationRow.hashed (row : PerformancePublicationRow) (snapshotHash : String) :
    Json :=
  .object [
    ("domain", .text HASH_DOMAIN),
    ("scheduled_for", .text (Calendar.utcText row.boundaryScheduledFor)),
    ("snapshot_hash", .text snapshotHash),
    ("projection_hash", .text row.projectionHash),
    ("predecessor_hash", Json.ofOptional .text row.predecessorHash)]

/-- What a publication says: its boundary, the hashes of its snapshot and projection, and its
own. -/
def PerformanceStore.contents (store : PerformanceStore) (row : PerformancePublicationRow) :
    Option (List String) :=
  (store.snapshot row.snapshotId).map fun snapshot =>
    [Calendar.utcText row.boundaryScheduledFor, snapshot.snapshotHash, row.projectionHash,
      row.publicationHash]

/-- A publication has the hash of its document. -/
def HasHash (store : PerformanceStore) (row : PerformancePublicationRow) (document : Json) : Prop :=
  ∃ snapshot, store.snapshot row.snapshotId = some snapshot ∧
    document = row.hashed snapshot.snapshotHash ∧ row.publicationHash = canonicalHash document

/-- Publications of two stores have one hash and different documents. -/
def Collide (store other : PerformanceStore) (row found : PerformancePublicationRow) : Prop :=
  ∃ left right, HasHash store row left ∧ HasHash other found right ∧
    row.publicationHash = found.publicationHash ∧ left.sorted ≠ right.sorted

/-- The last publication that verifies has its hash and names the one before it. -/
theorem verified_concat (h : verifyPublications store latest (rows ++ [row]) = .ok result) :
    ∃ before, verifyPublications store latest rows = .ok before ∧
      row.predecessorHash = before.bind (·.2.publicationHash) ∧
      (∃ document, HasHash store row document) ∧
      result.bind (·.2.publicationHash) = some row.publicationHash := by
  induction rows generalizing latest with
  | nil =>
      simp only [List.nil_append, verifyPublications, require_bind_ok] at h
      obtain ⟨snapshot, hsnapshot, h⟩ := h
      obtain ⟨proof, hproof, h⟩ := bind_ok.mp h
      cases h
      simp only [verifyPublication, check_bind_ok] at hproof
      obtain ⟨-, hproof⟩ := hproof
      obtain ⟨payload, -, hproof⟩ := bind_ok.mp hproof
      obtain ⟨point, -, hproof⟩ := bind_ok.mp hproof
      simp only [check_bind_ok, raiseIf_ok, Bool.not_eq_false', PerformancePublicationRow.agrees,
        Bool.and_eq_true, beq_iff_eq] at hproof
      obtain ⟨⟨⟨⟨⟨-, hnamed⟩, hprojection⟩, hhash⟩, hproofHash⟩, hproof⟩ := hproof
      cases hproof
      rw [← hhash] at hproofHash
      rw [← hprojection, ← hnamed] at hhash
      exact ⟨latest, rfl, hnamed, ⟨_, snapshot, hsnapshot, rfl, hhash⟩, hproofHash⟩
  | cons first rows ih =>
      simp only [List.cons_append, verifyPublications, require_bind_ok] at h ⊢
      obtain ⟨snapshot, hsnapshot, h⟩ := h
      obtain ⟨proof, hproof, h⟩ := bind_ok.mp h
      obtain ⟨before, hbefore, hrow⟩ := ih h
      exact ⟨before, ⟨snapshot, hsnapshot, bind_ok.mpr ⟨proof, hproof, hbefore⟩⟩, hrow⟩

omit [Digest] in
theorem ofOptional_sorted {left right : Option String}
    (h : (Json.ofOptional .text left).sorted = (Json.ofOptional .text right).sorted) :
    left = right := by
  cases left <;> cases right <;> simp_all [Json.ofOptional, Json.sorted]

omit [Digest] in
/-- Documents that are sorted alike are of one boundary, snapshot, projection and predecessor. -/
theorem hashed_sorted {left right : String}
    (h : (row.hashed left).sorted = (found.hashed right).sorted) :
    Calendar.utcText row.boundaryScheduledFor = Calendar.utcText found.boundaryScheduledFor ∧
      left = right ∧ row.projectionHash = found.projectionHash ∧
      row.predecessorHash = found.predecessorHash := by
  rw [PerformancePublicationRow.hashed, PerformancePublicationRow.hashed,
    Json.sorted_object_iff (by simp only [List.map_cons, List.map_nil]; decide)
      (by simp only [List.map_cons, List.map_nil])] at h
  simp only [List.map_cons, List.map_nil, Json.sortedPair, List.cons.injEq, Prod.mk.injEq, true_and,
    and_true, Json.sorted, Json.text.injEq] at h
  exact ⟨h.1, h.2.1, h.2.2.1, ofOptional_sorted h.2.2.2⟩

end Committed

section Rehearsed

open PerformanceRehearsal

attribute [local instance] boundaryDigest

end Rehearsed

end AlphaDecay.Performance
