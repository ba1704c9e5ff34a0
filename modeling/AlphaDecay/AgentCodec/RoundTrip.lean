import AlphaDecay.Contracts
import AlphaDecay.AgentCodec.Codec

/-!
# What the codec of agent values reads back

A value that is encoded is read back as an equal value unless it holds a dataclass whose absent
lineage is left out by the encoding and has no default in its class: then nothing is read back.
-/

namespace AlphaDecay.AgentCodec

open Foundation

/-! ## Texts -/

/-- A decimal is read back from its plain notation as an equal decimal. -/
theorem parse_toFixed (d : Decimal) :
    ∃ read, Decimal.parse d.toFixed = some read ∧ read.value = d.value := by
  obtain ⟨negative, coefficient, exponent⟩ := d
  by_cases hwhole : 0 ≤ exponent
  · obtain ⟨zeros, rfl⟩ : ∃ zeros : Nat, exponent = zeros := ⟨exponent.toNat, by omega⟩
    have hparse := Decimal.parse_plainText negative (coefficient * 10 ^ zeros) 0
    have hplain : Decimal.plainText (coefficient * 10 ^ zeros) 0 =
        Text.natDigits (coefficient * 10 ^ zeros) := by
      simp [Decimal.plainText]
    rw [hplain] at hparse
    refine ⟨_, by simpa [Decimal.toFixed] using hparse, ?_⟩
    rw [Decimal.value_eq_sign, Decimal.value_eq_sign, Decimal.sign, Decimal.sign]
    simp only [Nat.cast_mul, Nat.cast_pow, Nat.cast_ofNat, zpow_natCast]
    norm_num
  · obtain ⟨places, rfl⟩ : ∃ places : Nat, exponent = -places :=
      ⟨(-exponent).toNat, by omega⟩
    have hplaces : (-(-(places : Int))).toNat = places := by omega
    refine ⟨⟨negative, coefficient, -places⟩, ?_, rfl⟩
    rw [Decimal.toFixed, if_neg hwhole, hplaces, Decimal.parse_plainText]

theorem readInstant_isoformat (t : { t : Int // Calendar.InRange t }) :
    readInstant (Calendar.isoformat t.1) = some t := by
  rw [readInstant, Calendar.fromIsoformat_isoformat t.2, Option.bind_some, dif_pos t.2]

theorem readDay_dateText (d : { d : Calendar.Date // d.isValid = true }) :
    readDay (dateText d.1) = some d := by
  rw [readDay, dateText, Calendar.readDate_written d.2, Option.bind_some, dif_pos d.2]

/-! ## Documents with a type -/

section

variable (classes : List Class) (constructors : Constructors)

theorem decode_datetime (t : { t : Int // Calendar.InRange t }) :
    decode classes constructors (tagged "datetime" [("value", .text (Calendar.isoformat t.1))]) =
      .ok (.datetime t) := by
  rw [tagged, decode]
  simp [Json.member, readText, required, Json.asText, readInstant_isoformat, Except.map]

theorem decode_date (d : { d : Calendar.Date // d.isValid = true }) :
    decode classes constructors (tagged "date" [("value", .text (dateText d.1))]) =
      .ok (.date d) := by
  rw [tagged, decode]
  simp [Json.member, readText, required, Json.asText, readDay_dateText, Except.map]

theorem decode_timedelta (span : Span) :
    decode classes constructors (tagged "timedelta" [("microseconds", .number span.1)]) =
      .ok (.timedelta span) := by
  rw [tagged, decode]
  simp [Json.member, readSpan, required, Json.asNumber, span.2.1, span.2.2, Except.map]

/-- A decimal is decoded from its document as an equal decimal. -/
theorem decode_decimal (d : Decimal) : ∃ read, read.value = d.value ∧
    decode classes constructors (tagged "decimal" [("value", Json.ofChars d.toFixed)]) =
      .ok (.decimal read) := by
  obtain ⟨read, hparse, hvalue⟩ := parse_toFixed d
  refine ⟨read, hvalue, ?_⟩
  rw [tagged, decode]
  simp [Json.member, readText, required, Json.ofChars, Json.asText, hparse, Except.map]

theorem decode_uuid (id : Uuid) :
    decode classes constructors (tagged "uuid" [("value", .text id.toText)]) = .ok (.uuid id) := by
  rw [tagged, decode]
  simp [Json.member, readText, required, Json.asText, Uuid.parse_toText, Except.map]

theorem decode_tuple (items : List Json) :
    decode classes constructors (tagged "tuple" [("items", .array items)]) =
      (decodeItems classes constructors items).map .tuple := by
  rw [tagged, decode]
  simp [Json.member]

theorem decode_list (items : List Json) :
    decode classes constructors (tagged "list" [("items", .array items)]) =
      (decodeItems classes constructors items).map .list := by
  rw [tagged, decode]
  simp [Json.member]

theorem decode_dict (entries : List (String × Json)) :
    decode classes constructors (tagged "dict" [("items", .object entries)]) =
      (decodeMembers classes constructors entries).map .dict := by
  rw [tagged, decode]
  simp [Json.member]

/-- A member of an enumeration is decoded from its document. -/
theorem decode_enum {cls value : String} {members : List String}
    (hclass : lookup classes cls = some (.enum members)) (hmember : value ∈ members) :
    decode classes constructors (tagged "enum" [("class", .text cls), ("value", .text value)]) =
      .ok (.enum cls value) := by
  rw [tagged, decode]
  simp [Json.member, Json.asText, hclass, readText, required, hmember, Except.map]

/-- An instance is built from its decoded fields. -/
theorem decode_record {kind : RecordKind} {cls : String} {declared : List Field}
    (hclass : lookup classes cls = some (.record kind declared)) (fields : List (String × Json)) :
    decode classes constructors
        (tagged kind.tag [("class", .text cls), ("fields", .object fields)]) =
      (decodeMembers classes constructors fields).bind
        (instantiate constructors kind cls declared) := by
  rw [tagged, decode]
  have hkind : (fun given => instantiateAs constructors kind.tag cls (.record kind declared)
    given) =
      instantiate constructors kind cls declared := by
    funext given
    rw [instantiateAs, if_pos rfl]
  cases kind <;> simp [Json.member, RecordKind.tag, Json.asText, hclass, ← hkind]

end

/-! ## Items and members -/

section

variable {classes : List Class} {constructors : Constructors}
variable {kind : RecordKind} {cls name : String} {value : Value} {items : List Value}
  {document : Json} {documents : List Json}
variable {members fields : List (String × Value)}

theorem decodeItems_ok :
    decodeItems classes constructors documents = .ok items ↔
      List.Forall₂ (fun document item => decode classes constructors document = .ok item)
        documents items := by
  induction documents generalizing items with
  | nil =>
      rw [decodeItems, List.forall₂_nil_left_iff]
      exact ⟨fun h => (Except.ok.inj h).symm, fun h => by rw [h]⟩
  | cons document documents ih =>
      simp only [decodeItems, bind_ok, ih, List.forall₂_cons_left_iff, pure, Except.pure,
        Except.ok.injEq]
      constructor
      · rintro ⟨first, hfirst, rest, hrest, rfl⟩
        exact ⟨first, rest, hfirst, hrest, rfl⟩
      · rintro ⟨first, rest, hfirst, hrest, rfl⟩
        exact ⟨first, hfirst, rest, hrest, rfl⟩

/-- Members are decoded when each of them is, under its name. -/
theorem decodeMembers_ok {documents : List (String × Json)} :
    decodeMembers classes constructors documents = .ok members ↔
      List.Forall₂ (fun document member => document.1 = member.1 ∧
        decode classes constructors document.2 = .ok member.2) documents members := by
  induction documents generalizing members with
  | nil =>
      rw [decodeMembers, List.forall₂_nil_left_iff]
      exact ⟨fun h => (Except.ok.inj h).symm, fun h => by rw [h]⟩
  | cons document documents ih =>
      obtain ⟨name, document⟩ := document
      simp only [decodeMembers, bind_ok, ih, List.forall₂_cons_left_iff, pure, Except.pure,
        Except.ok.injEq]
      constructor
      · rintro ⟨first, hfirst, rest, hrest, rfl⟩
        exact ⟨(name, first), rest, ⟨rfl, hfirst⟩, hrest, rfl⟩
      · rintro ⟨⟨other, first⟩, rest, ⟨hname, hfirst⟩, hrest, rfl⟩
        cases hname
        exact ⟨first, hfirst, rest, hrest, rfl⟩

/-- What is decoded stands under the names that were there. -/
theorem names_decodeMembers {documents : List (String × Json)}
    (h : decodeMembers classes constructors documents = .ok members) :
    members.map (·.1) = documents.map (·.1) := by
  have hpairs := decodeMembers_ok.mp h
  clear h
  induction hpairs with
  | nil => rfl
  | cons hpair _ ih => rw [List.map_cons, List.map_cons, ih, hpair.1]

/-- A name that no member has is not found among the decoded ones. -/
theorem find_decodeMembers_none {documents : List (String × Json)}
    (h : decodeMembers classes constructors documents = .ok members)
    (hnone : Json.member name documents = none) : find name members = none := by
  have hpairs := decodeMembers_ok.mp h
  clear h
  induction hpairs with
  | nil => rfl
  | @cons document member _ _ hpair _ ih =>
      rw [Json.member] at hnone
      rw [find]
      split at hnone
      · cases hnone
      · rw [← hpair.1, if_neg ‹_›]
        exact ih hnone

/-- The member under a name is found decoded. -/
theorem find_decodeMembers {documents : List (String × Json)}
    (h : decodeMembers classes constructors documents = .ok members)
    (hsome : Json.member name documents = some document) :
    ∃ value, find name members = some value ∧ decode classes constructors document = .ok value := by
  have hpairs := decodeMembers_ok.mp h
  clear h
  induction hpairs with
  | nil => cases hsome
  | @cons first member _ _ hpair _ ih =>
      rw [Json.member] at hsome
      rw [find, ← hpair.1]
      split at hsome
      · cases hsome
        rw [if_pos ‹_›]
        exact ⟨member.2, rfl, hpair.2⟩
      · rw [if_neg ‹_›]
        exact ih hsome

theorem exists_decodeMembers {documents : List (String × Json)}
    (h : ∀ pair ∈ documents, ∃ value, decode classes constructors pair.2 = .ok value) :
    ∃ members, decodeMembers classes constructors documents = .ok members := by
  induction documents with
  | nil => exact ⟨[], by rw [decodeMembers]⟩
  | cons pair documents ih =>
      obtain ⟨name, document⟩ := pair
      rw [List.forall_mem_cons] at h
      obtain ⟨value, hvalue⟩ := h.1
      obtain ⟨members, hmembers⟩ := ih h.2
      refine ⟨(name, value) :: members, ?_⟩
      rw [decodeMembers, hvalue, ok_bind, hmembers, ok_bind]
      rfl

theorem encodeItems_ok :
    encodeItems classes items = .ok documents ↔
      List.Forall₂ (fun item document => encode classes item = .ok document) items documents := by
  induction items generalizing documents with
  | nil =>
      rw [encodeItems, List.forall₂_nil_left_iff]
      exact ⟨fun h => (Except.ok.inj h).symm, fun h => by rw [h]⟩
  | cons item items ih =>
      simp only [encodeItems, bind_ok, ih, List.forall₂_cons_left_iff, pure, Except.pure,
        Except.ok.injEq]
      constructor
      · rintro ⟨first, hfirst, rest, hrest, rfl⟩
        exact ⟨first, rest, hfirst, hrest, rfl⟩
      · rintro ⟨first, rest, hfirst, hrest, rfl⟩
        exact ⟨first, hfirst, rest, hrest, rfl⟩

/-! ### Fields -/

/-- A field that is kept is encoded under its name. -/
theorem member_encodeFields {documents : List (String × Json)}
    (h : encodeFields classes kind fields = .ok documents) (hnames : (fields.map (·.1)).Nodup)
    (hmem : (name, value) ∈ fields) (hkept : leftOut kind name value = false) :
    ∃ document, Json.member name documents = some document ∧
      encode classes value = .ok document := by
  induction fields generalizing documents with
  | nil => cases hmem
  | cons pair fields ih =>
      obtain ⟨key, other⟩ := pair
      rw [List.map_cons, List.nodup_cons] at hnames
      rw [encodeFields] at h
      rcases List.mem_cons.mp hmem with heq | hmem
      · cases heq
        rw [if_neg (by simp [hkept])] at h
        simp only [bind_ok, pure, Except.pure, Except.ok.injEq] at h
        obtain ⟨first, hfirst, rest, hrest, rfl⟩ := h
        exact ⟨first, by rw [Json.member, if_pos rfl], hfirst⟩
      · have hother : key ≠ name := by
          rintro rfl
          exact hnames.1 (List.mem_map.mpr ⟨_, hmem, rfl⟩)
        split at h
        · exact ih h hnames.2 hmem
        · simp only [bind_ok, pure, Except.pure, Except.ok.injEq] at h
          obtain ⟨first, -, rest, hrest, rfl⟩ := h
          rw [Json.member, if_neg hother]
          exact ih hrest hnames.2 hmem

theorem names_encodeFields {documents : List (String × Json)}
    (h : encodeFields classes kind fields = .ok documents) :
    (documents.map (·.1)).Sublist (fields.map (·.1)) := by
  induction fields generalizing documents with
  | nil =>
      rw [encodeFields] at h
      cases h
      exact List.Sublist.refl _
  | cons pair fields ih =>
      obtain ⟨key, value⟩ := pair
      rw [encodeFields] at h
      split at h
      · exact (ih h).cons _
      · simp only [bind_ok, pure, Except.pure, Except.ok.injEq] at h
        obtain ⟨first, -, rest, hrest, rfl⟩ := h
        exact (ih hrest).cons_cons _

/-- What encoded fields hold comes from fields that are kept. -/
theorem mem_encodeFields {documents : List (String × Json)}
    (h : encodeFields classes kind fields = .ok documents) {pair : String × Json}
    (hmem : pair ∈ documents) :
    ∃ value, (pair.1, value) ∈ fields ∧ leftOut kind pair.1 value = false ∧
      encode classes value = .ok pair.2 := by
  induction fields generalizing documents with
  | nil =>
      rw [encodeFields] at h
      cases h
      cases hmem
  | cons field fields ih =>
      obtain ⟨key, value⟩ := field
      rw [encodeFields] at h
      split at h
      · obtain ⟨found, hfound, hrest⟩ := ih h hmem
        exact ⟨found, List.mem_cons_of_mem _ hfound, hrest⟩
      · rename_i hkept
        simp only [bind_ok, pure, Except.pure, Except.ok.injEq] at h
        obtain ⟨first, hfirst, rest, hrest, rfl⟩ := h
        rcases List.mem_cons.mp hmem with rfl | hmem
        · exact ⟨value, List.mem_cons_self, by simpa using hkept, hfirst⟩
        · obtain ⟨found, hfound, hlast⟩ := ih hrest hmem
          exact ⟨found, List.mem_cons_of_mem _ hfound, hlast⟩

/-- A field that is left out is not among the encoded ones. -/
theorem member_encodeFields_none {documents : List (String × Json)}
    (h : encodeFields classes kind fields = .ok documents) (hnames : (fields.map (·.1)).Nodup)
    (hmem : (name, value) ∈ fields) (hout : leftOut kind name value = true) :
    Json.member name documents = none := by
  by_contra hsome
  obtain ⟨document, hdocument⟩ := Option.ne_none_iff_exists'.mp hsome
  have hdistinct := hnames.sublist (names_encodeFields h)
  obtain ⟨other, hother, hkept, -⟩ :=
    mem_encodeFields h ((Json.member_eq_some hdistinct).mp hdocument)
  have hsame : ((name, other) : String × Value) = (name, value) :=
    List.inj_on_of_nodup_map hnames hother hmem rfl
  cases hsame
  rw [hkept] at hout
  cases hout

/-! ### Entries of a dictionary -/

theorem encodeEntries_eq (items : List (String × Value)) :
    encodeEntries classes items = items.map fun item => (item.1, encode classes item.2) := by
  induction items with
  | nil => rfl
  | cons item items ih => rw [encodeEntries, ih, List.map_cons]

theorem encodedEntry_ok {entry : String × Except Failure Json} {pair : String × Json} :
    encodedEntry entry = .ok pair ↔ entry = (pair.1, .ok pair.2) := by
  obtain ⟨key, encoded⟩ := entry
  obtain ⟨name, document⟩ := pair
  cases encoded <;> simp [encodedEntry, Except.map]

/-- Encoded entries stand under their keys. -/
theorem encodedEntries_ok {entries : List (String × Except Failure Json)}
    {documents : List (String × Json)} :
    entries.mapM encodedEntry = .ok documents ↔
      entries = documents.map fun pair => (pair.1, .ok pair.2) := by
  induction entries generalizing documents with
  | nil =>
      rw [List.mapM_nil]
      cases documents <;> simp [pure, Except.pure]
  | cons entry entries ih =>
      simp only [List.mapM_cons, bind_ok, ih, encodedEntry_ok, pure, Except.pure,
        Except.ok.injEq]
      constructor
      · rintro ⟨pair, rfl, rest, rfl, rfl⟩
        rfl
      · intro h
        cases documents with
        | nil => cases h
        | cons pair rest =>
            rw [List.map_cons, List.cons.injEq] at h
            exact ⟨pair, h.1, rest, h.2, rfl⟩

theorem encodeDict_ok {items : List (String × Value)} {documents : List (String × Json)}
    (h : ((encodeEntries classes items).insertionSort byKey).mapM encodedEntry = .ok documents) :
    (documents.map fun pair => (pair.1, Except.ok pair.2)).Perm
      (items.map fun item => (item.1, encode classes item.2)) := by
  rw [encodedEntries_ok] at h
  rw [← h, encodeEntries_eq]
  exact List.perm_insertionSort byKey _

theorem names_encodeDict {items : List (String × Value)} {documents : List (String × Json)}
    (h : (documents.map fun pair => (pair.1, (Except.ok pair.2 : Except Failure Json))).Perm
      (items.map fun item => (item.1, encode classes item.2))) :
    (documents.map (·.1)).Perm (items.map (·.1)) := by
  simpa [List.map_map, Function.comp_def] using h.map (·.1)

end

/-! ## What is lost -/

/-- The classes name each field once, and a lineage has no default other than its absence. -/
def wellFormed (classes : List Class) : Bool :=
  classes.all fun cls =>
    match cls.shape with
    | .enum _ => true
    | .record _ declared => decide (declared.map (·.name)).Nodup &&
        declared.all fun field => field.name ≠ lineageField || (field.default.getD .none).isNone

/-- An instance whose absent lineage is left out although its class gives the lineage no
default. -/
def LosesLineage (classes : List Class) : Value → Prop
  | .record .dataclass cls fields => (lineageField, .none) ∈ fields ∧
      ∃ declared, lookup classes cls = some (.record .dataclass declared) ∧
        ∃ field ∈ declared, field.name = lineageField ∧ field.default = none
  | _ => False

/-- Nothing inside a value loses its lineage. -/
def LineageKept (classes : List Class) (value : Value) : Prop :=
  ∀ node ∈ value.nodes, ¬ LosesLineage classes node

section Kept

variable {classes : List Class}

/-- The fields of a registered class are named once. -/
theorem nodup_declared (hclasses : wellFormed classes = true) {declared : List Field}
    (hclass : lookup classes cls = some (.record kind declared)) :
    (declared.map (·.name)).Nodup := by
  obtain ⟨found, hfound, hshape⟩ := Option.map_eq_some_iff.mp hclass
  have hall := List.all_eq_true.mp hclasses found (List.mem_of_find?_eq_some hfound)
  rw [hshape, Bool.and_eq_true, decide_eq_true_eq] at hall
  exact hall.1

theorem default_lineage (hclasses : wellFormed classes = true) {declared : List Field}
    (hclass : lookup classes cls = some (.record kind declared)) {field : Field}
    (hfield : field ∈ declared) (hname : field.name = lineageField) {default : Value}
    (hdefault : field.default = some default) : default = .none := by
  obtain ⟨found, hfound, hshape⟩ := Option.map_eq_some_iff.mp hclass
  have hall := List.all_eq_true.mp hclasses found (List.mem_of_find?_eq_some hfound)
  rw [hshape, Bool.and_eq_true] at hall
  have hnone := List.all_eq_true.mp hall.2 field hfield
  simp only [hname, ne_eq, not_true_eq_false, decide_false, Bool.false_or, hdefault,
    Option.getD_some] at hnone
  cases default <;> first | rfl | cases hnone

theorem LineageKept.tuple (h : LineageKept classes (.tuple items)) :
    ∀ item ∈ items, LineageKept classes item := by
  intro item hitem node hnode
  exact h node (List.mem_cons_of_mem _ (mem_nodesOfItems.mpr ⟨item, hitem, hnode⟩))

theorem LineageKept.list (h : LineageKept classes (.list items)) :
    ∀ item ∈ items, LineageKept classes item := by
  intro item hitem node hnode
  exact h node (List.mem_cons_of_mem _ (mem_nodesOfItems.mpr ⟨item, hitem, hnode⟩))

theorem LineageKept.dict {items : List (String × Value)}
    (h : LineageKept classes (.dict items)) : ∀ pair ∈ items, LineageKept classes pair.2 := by
  intro pair hpair node hnode
  exact h node (List.mem_cons_of_mem _ (mem_nodesOfFields.mpr ⟨pair, hpair, hnode⟩))

theorem LineageKept.record {fields : List (String × Value)}
    (h : LineageKept classes (.record kind cls fields)) :
    ∀ pair ∈ fields, LineageKept classes pair.2 := by
  intro pair hpair node hnode
  exact h node (List.mem_cons_of_mem _ (mem_nodesOfFields.mpr ⟨pair, hpair, hnode⟩))

theorem classKey_ok {key : String} (h : classKey classes cls = .ok key) :
    key = cls ∧ ∃ shape, lookup classes cls = some shape := by
  rw [classKey] at h
  split at h
  · rename_i hsome
    exact ⟨(Except.ok.inj h).symm, Option.isSome_iff_exists.mp hsome⟩
  · cases h

end Kept

/-! ## Arguments -/

section

variable {declared : List Field} {fields given : List (String × Value)}

/-- The arguments of a constructor are the fields, where each field is given an equal value or
is absent with its absence as the default. -/
theorem bindArguments_same (hnames : fields.map (·.1) = declared.map (·.name))
    (hgiven : ∀ pair ∈ fields, ∀ field ∈ declared, field.name = pair.1 →
      (∃ value, find pair.1 given = some value ∧ Same pair.2 value) ∨
        (find pair.1 given = none ∧ field.default = some .none ∧ pair.2 = .none)) :
    ∃ arguments, bindArguments given declared = .ok arguments ∧ SameFields fields arguments := by
  induction declared generalizing fields with
  | nil =>
      rw [List.map_nil, List.map_eq_nil_iff] at hnames
      subst hnames
      exact ⟨[], rfl, by rw [SameFields]⟩
  | cons field declared ih =>
      cases fields with
      | nil => cases hnames
      | cons pair fields =>
          obtain ⟨name, value⟩ := pair
          rw [List.map_cons, List.map_cons, List.cons.injEq] at hnames
          obtain ⟨hname, hrest⟩ := hnames
          dsimp only at hname
          subst hname
          obtain ⟨arguments, harguments, hsame⟩ := ih hrest fun pair hpair other hother hname =>
            hgiven pair (List.mem_cons_of_mem _ hpair) other (List.mem_cons_of_mem _ hother) hname
          rcases hgiven _ List.mem_cons_self field List.mem_cons_self rfl with
            ⟨found, hfound, hequal⟩ | ⟨habsent, hdefault, hnone⟩
          · refine ⟨(field.name, found) :: arguments, ?_, ?_⟩
            · dsimp only at hfound
              rw [bindArguments, hfound, harguments]
              rfl
            · rw [SameFields]
              exact ⟨found, arguments, rfl, hequal, hsame⟩
          · refine ⟨(field.name, .none) :: arguments, ?_, ?_⟩
            · dsimp only at habsent
              rw [bindArguments, habsent, hdefault, harguments]
              rfl
            · dsimp only at hnone
              rw [SameFields, hnone]
              exact ⟨.none, arguments, rfl, by rw [Same], hsame⟩

/-- Arguments are bound only where each field is given or has a default. -/
theorem bound_of_bindArguments {arguments : List (String × Value)}
    (h : bindArguments given declared = .ok arguments) :
    ∀ field ∈ declared, find field.name given = none → field.default ≠ none := by
  induction declared generalizing arguments with
  | nil => exact fun field hfield => absurd hfield List.not_mem_nil
  | cons first declared ih =>
      rw [bindArguments] at h
      rw [List.forall_mem_cons]
      split at h
      · rename_i value hfound
        cases hrest : bindArguments given declared with
        | error failure =>
            rw [hrest] at h
            cases h
        | ok rest =>
            refine ⟨fun hnone => ?_, ih hrest⟩
            rw [hnone] at hfound
            cases hfound
      · rename_i default habsent hdefault
        cases hrest : bindArguments given declared with
        | error failure =>
            rw [hrest] at h
            cases h
        | ok rest =>
            refine ⟨fun _ hnone => ?_, ih hrest⟩
            rw [hnone] at hdefault
            cases hdefault
      · cases h

end

/-! ## Reading back -/

variable {classes : List Class} {constructors : Constructors}

/-- Items are read back as equal items. -/
theorem decodeItems_encodeItems (hencode : encodeItems classes items = .ok documents)
    (hback : ∀ item ∈ items, ∀ document, encode classes item = .ok document →
      ∃ again, decode classes constructors document = .ok again ∧ Same item again) :
    ∃ again, decodeItems classes constructors documents = .ok again ∧ SameItems items again := by
  have hpairs := encodeItems_ok.mp hencode
  clear hencode
  induction hpairs with
  | nil => exact ⟨[], by rw [decodeItems], by rw [SameItems]⟩
  | @cons item document _ _ hpair _ ih =>
      rw [List.forall_mem_cons] at hback
      obtain ⟨first, hfirst, hsame⟩ := hback.1 document hpair
      obtain ⟨rest, hrest, hothers⟩ := ih hback.2
      refine ⟨first :: rest, ?_, ?_⟩
      · rw [decodeItems, hfirst, ok_bind, hrest, ok_bind]
        rfl
      · rw [SameItems]
        exact ⟨first, rest, rfl, hsame, hothers⟩

/-- Every entry is equal where each key has an equal value. -/
theorem sameEntries_of {items others : List (String × Value)}
    (h : ∀ pair ∈ items, ∃ other, find pair.1 others = some other ∧ Same pair.2 other) :
    SameEntries items others := by
  induction items with
  | nil => rw [SameEntries]; trivial
  | cons pair items ih =>
      rw [List.forall_mem_cons] at h
      rw [SameEntries]
      exact ⟨h.1, ih h.2⟩

/-- A dictionary is read back with an equal value under each key. -/
theorem decodeMembers_encodeDict {items : List (String × Value)}
    {documents : List (String × Json)} (hkeys : (items.map (·.1)).Nodup)
    (hencode : (documents.map fun pair => (pair.1, Except.ok pair.2)).Perm
      (items.map fun item => (item.1, encode classes item.2)))
    (hback : ∀ pair ∈ items, ∀ document, encode classes pair.2 = .ok document →
      ∃ again, decode classes constructors document = .ok again ∧ Same pair.2 again) :
    ∃ again, decodeMembers classes constructors documents = .ok again ∧
      items.length = again.length ∧ SameEntries items again := by
  have hnames := names_encodeDict hencode
  have hsource : ∀ pair ∈ documents, ∃ item ∈ items, item.1 = pair.1 ∧
      encode classes item.2 = .ok pair.2 := by
    intro pair hpair
    have hmem := hencode.mem_iff.mp (List.mem_map_of_mem hpair)
    obtain ⟨item, hitem, heq⟩ := List.mem_map.mp hmem
    exact ⟨item, hitem, congrArg Prod.fst heq, congrArg Prod.snd heq⟩
  obtain ⟨again, hagain⟩ : ∃ again, decodeMembers classes constructors documents = .ok again :=
    exists_decodeMembers fun pair hpair => by
      obtain ⟨item, hitem, -, hitemEncode⟩ := hsource pair hpair
      obtain ⟨value, hvalue, -⟩ := hback item hitem pair.2 hitemEncode
      exact ⟨value, hvalue⟩
  refine ⟨again, hagain, ?_, sameEntries_of fun item hitem => ?_⟩
  · have hlength := congrArg List.length (names_decodeMembers hagain)
    have hother := hnames.length_eq
    simp only [List.length_map] at hlength hother
    omega
  · have hmem := hencode.mem_iff.mpr (List.mem_map_of_mem hitem)
    obtain ⟨pair, hpair, heq⟩ := List.mem_map.mp hmem
    have hname : pair.1 = item.1 := congrArg Prod.fst heq
    have hdocument : encode classes item.2 = .ok pair.2 := (congrArg Prod.snd heq).symm
    have hfound : Json.member item.1 documents = some pair.2 :=
      (Json.member_eq_some (hnames.nodup_iff.mpr hkeys)).mpr (by rw [← hname]; exact hpair)
    obtain ⟨value, hvalue, hdecode⟩ := find_decodeMembers hagain hfound
    obtain ⟨other, hother, hsame⟩ := hback item hitem pair.2 hdocument
    rw [hdecode] at hother
    cases hother
    exact ⟨value, hvalue, hsame⟩

theorem leftOut_eq_true (h : leftOut kind name value = true) :
    kind = .dataclass ∧ name = lineageField ∧ value = .none := by
  simp only [leftOut, Bool.and_eq_true, decide_eq_true_eq] at h
  refine ⟨h.1.1, h.1.2, ?_⟩
  cases value <;> first | rfl | cases h.2

/-- The fields of an instance are read back as equal arguments, where the lineage is not lost. -/
theorem arguments_encodeFields (hclasses : wellFormed classes = true) {declared : List Field}
    {fields : List (String × Value)} {documents : List (String × Json)}
    (hclass : lookup classes cls = some (.record kind declared))
    (hnames : fields.map (·.1) = declared.map (·.name))
    (hencode : encodeFields classes kind fields = .ok documents)
    (hkept : ¬ LosesLineage classes (.record kind cls fields))
    (hback : ∀ pair ∈ fields, ∀ document, encode classes pair.2 = .ok document →
      ∃ again, decode classes constructors document = .ok again ∧ Same pair.2 again) :
    ∃ given arguments, decodeMembers classes constructors documents = .ok given ∧
      bindArguments given declared = .ok arguments ∧ SameFields fields arguments ∧
      ∀ pair ∈ given, ∃ field ∈ declared, field.name = pair.1 := by
  have hdistinct : (fields.map (·.1)).Nodup := by
    rw [hnames]
    exact nodup_declared hclasses hclass
  obtain ⟨given, hgiven⟩ : ∃ given, decodeMembers classes constructors documents = .ok given :=
    exists_decodeMembers fun pair hpair => by
      obtain ⟨value, hvalue, -, hdocument⟩ := mem_encodeFields hencode hpair
      obtain ⟨again, hagain, -⟩ := hback _ hvalue _ hdocument
      exact ⟨again, hagain⟩
  have hfields : ∀ pair ∈ fields, ∀ field ∈ declared, field.name = pair.1 →
      (∃ value, find pair.1 given = some value ∧ Same pair.2 value) ∨
        (find pair.1 given = none ∧ field.default = some .none ∧ pair.2 = .none) := by
    intro pair hpair field hfield hname
    cases hout : leftOut kind pair.1 pair.2 with
    | false =>
        obtain ⟨document, hmember, hdocument⟩ :=
          member_encodeFields hencode hdistinct hpair hout
        obtain ⟨value, hvalue, hdecode⟩ := find_decodeMembers hgiven hmember
        obtain ⟨again, hagain, hsame⟩ := hback pair hpair document hdocument
        rw [hdecode] at hagain
        cases hagain
        exact Or.inl ⟨value, hvalue, hsame⟩
    | true =>
        obtain ⟨rfl, hlineage, hnone⟩ := leftOut_eq_true hout
        have habsent := member_encodeFields_none hencode hdistinct hpair hout
        refine Or.inr ⟨find_decodeMembers_none hgiven habsent, ?_, hnone⟩
        cases hdefault : field.default with
        | none =>
            refine absurd ⟨?_, declared, hclass, field, hfield, hname.trans hlineage, hdefault⟩
              hkept
            rw [← hlineage, ← hnone]
            exact hpair
        | some default =>
            rw [default_lineage hclasses hclass hfield (hname.trans hlineage) hdefault]
  obtain ⟨arguments, harguments, hsame⟩ := bindArguments_same hnames hfields
  refine ⟨given, arguments, hgiven, harguments, hsame, fun pair hpair => ?_⟩
  have hmem : pair.1 ∈ documents.map (·.1) := by
    rw [← names_decodeMembers hgiven]
    exact List.mem_map_of_mem hpair
  have hdeclared : pair.1 ∈ declared.map (·.name) := by
    rw [← hnames]
    exact (names_encodeFields hencode).subset hmem
  exact List.mem_map.mp hdeclared

/-- An instance is built from arguments equal to its fields. -/
theorem instantiate_same {declared : List Field} {fields given arguments : List (String × Value)}
    (hconstruct : constructors.construct cls fields = some fields)
    (hgiven : ∀ pair ∈ given, ∃ field ∈ declared, field.name = pair.1)
    (harguments : bindArguments given declared = .ok arguments)
    (hsame : SameFields fields arguments) :
    ∃ again, instantiate constructors kind cls declared given = .ok again ∧
      Same (.record kind cls fields) again := by
  obtain ⟨built, hbuilt, hequal⟩ := constructors.construct_same cls fields arguments hsame
    hconstruct
  refine ⟨.record kind cls built, ?_, by rw [Same]; exact ⟨built, rfl, hequal⟩⟩
  have hnone : (given.any fun pair => !declared.any fun field => field.name = pair.1) = false := by
    rw [List.any_eq_false]
    intro pair hpair
    obtain ⟨field, hfield, hname⟩ := hgiven pair hpair
    simpa using ⟨field, hfield, hname⟩
  rw [instantiate, if_neg (by simp [hnone]), harguments, ok_bind, hbuilt]
  rfl

/-- A value whose lineage is kept everywhere is read back as an equal value. -/
theorem decode_encode (hclasses : wellFormed classes = true)
    (hbuilt : Built classes constructors value) (hkept : LineageKept classes value)
    (hencode : encode classes value = .ok document) :
    ∃ again, decode classes constructors document = .ok again ∧ Same value again := by
  induction hbuilt generalizing document with
  | none =>
      cases hencode
      exact ⟨.none, by rw [decode], by rw [Same]⟩
  | bool value =>
      cases hencode
      exact ⟨.bool value, by rw [decode], by rw [Same]⟩
  | int value =>
      cases hencode
      exact ⟨.int value, by rw [decode], by rw [Same]⟩
  | text value =>
      cases hencode
      exact ⟨.text value, by rw [decode], by rw [Same]⟩
  | decimal value =>
      cases hencode
      obtain ⟨read, hvalue, hdecode⟩ := decode_decimal classes constructors value
      exact ⟨.decimal read, hdecode, by rw [Same]; exact ⟨read, rfl, hvalue⟩⟩
  | datetime value =>
      cases hencode
      exact ⟨.datetime value, decode_datetime classes constructors value, by rw [Same]⟩
  | date value =>
      cases hencode
      exact ⟨.date value, decode_date classes constructors value, by rw [Same]⟩
  | timedelta value =>
      cases hencode
      exact ⟨.timedelta value, decode_timedelta classes constructors value, by rw [Same]⟩
  | uuid value =>
      cases hencode
      exact ⟨.uuid value, decode_uuid classes constructors value, by rw [Same]⟩
  | @enum cls value hmembers =>
      rw [encode] at hencode
      simp only [bind_ok, pure, Except.pure, Except.ok.injEq] at hencode
      obtain ⟨key, hkey, rfl⟩ := hencode
      obtain ⟨rfl, shape, hclass⟩ := classKey_ok hkey
      obtain ⟨members, rfl, hmember⟩ := hmembers shape hclass
      exact ⟨.enum key value, decode_enum classes constructors hclass hmember, by rw [Same]⟩
  | @record kind cls fields hshape _ ih =>
      rw [encode] at hencode
      simp only [bind_ok, pure, Except.pure, Except.ok.injEq] at hencode
      obtain ⟨key, hkey, documents, hdocuments, rfl⟩ := hencode
      obtain ⟨rfl, shape, hclass⟩ := classKey_ok hkey
      obtain ⟨declared, rfl, hnames, hconstruct⟩ := hshape shape hclass
      obtain ⟨given, arguments, hgiven, harguments, hsame, hdeclared⟩ :=
        arguments_encodeFields hclasses hclass hnames hdocuments (hkept _ (self_mem_nodes _))
          fun pair hpair _ hpair' => ih pair hpair (hkept.record pair hpair) hpair'
      obtain ⟨again, hagain, hequal⟩ :=
        instantiate_same hconstruct hdeclared harguments hsame
      refine ⟨again, ?_, hequal⟩
      rw [decode_record classes constructors hclass, hgiven]
      exact hagain
  | @tuple items _ ih =>
      rw [encode] at hencode
      simp only [bind_ok, pure, Except.pure, Except.ok.injEq] at hencode
      obtain ⟨documents, hdocuments, rfl⟩ := hencode
      obtain ⟨again, hagain, hsame⟩ := decodeItems_encodeItems hdocuments fun item hitem _ hitem' =>
        ih item hitem (hkept.tuple item hitem) hitem'
      refine ⟨.tuple again, ?_, by rw [Same]; exact ⟨again, rfl, hsame⟩⟩
      rw [decode_tuple, hagain]
      rfl
  | @list items _ ih =>
      rw [encode] at hencode
      simp only [bind_ok, pure, Except.pure, Except.ok.injEq] at hencode
      obtain ⟨documents, hdocuments, rfl⟩ := hencode
      obtain ⟨again, hagain, hsame⟩ := decodeItems_encodeItems hdocuments fun item hitem _ hitem' =>
        ih item hitem (hkept.list item hitem) hitem'
      refine ⟨.list again, ?_, by rw [Same]; exact ⟨again, rfl, hsame⟩⟩
      rw [decode_list, hagain]
      rfl
  | @dict items hkeys _ ih =>
      rw [encode] at hencode
      simp only [bind_ok, pure, Except.pure, Except.ok.injEq] at hencode
      obtain ⟨documents, hdocuments, rfl⟩ := hencode
      obtain ⟨again, hagain, hlength, hsame⟩ :=
        decodeMembers_encodeDict hkeys (encodeDict_ok hdocuments) fun pair hpair _ hpair' =>
          ih pair hpair (hkept.dict pair hpair) hpair'
      refine ⟨.dict again, ?_, by rw [Same]; exact ⟨again, rfl, hlength, hsame⟩⟩
      rw [decode_dict, hagain]
      rfl
  | foreign reason => cases hencode

/-- What one list relates to another has a partner there. -/
theorem exists_mem_of_forall₂ {α β : Type} {relation : α → β → Prop} {left : List α}
    {right : List β} (h : List.Forall₂ relation left right) {a : α} (ha : a ∈ left) :
    ∃ b ∈ right, relation a b := by
  induction h with
  | nil => cases ha
  | cons hpair _ ih =>
      rcases List.mem_cons.mp ha with rfl | hmem
      · exact ⟨_, List.mem_cons_self, hpair⟩
      · obtain ⟨b, hb, hrelation⟩ := ih hmem
        exact ⟨b, List.mem_cons_of_mem _ hb, hrelation⟩

/-- Items that are read back together are read back one by one. -/
theorem decode_of_decodeItems {again : List Value}
    (hencode : encodeItems classes items = .ok documents)
    (hdecode : decodeItems classes constructors documents = .ok again) {item : Value}
    (hitem : item ∈ items) :
    ∃ document other, encode classes item = .ok document ∧
      decode classes constructors document = .ok other := by
  obtain ⟨document, hdocument, hencoded⟩ := exists_mem_of_forall₂ (encodeItems_ok.mp hencode) hitem
  obtain ⟨other, -, hother⟩ := exists_mem_of_forall₂ (decodeItems_ok.mp hdecode) hdocument
  exact ⟨document, other, hencoded, hother⟩

/-- A value that is read back keeps its lineage everywhere. -/
theorem lineageKept_of_decode (hclasses : wellFormed classes = true)
    (hbuilt : Built classes constructors value) (hencode : encode classes value = .ok document)
    {again : Value} (hdecode : decode classes constructors document = .ok again) :
    LineageKept classes value := by
  induction hbuilt generalizing document again with
  | @record kind cls fields hshape _ ih =>
      rw [encode] at hencode
      simp only [bind_ok, pure, Except.pure, Except.ok.injEq] at hencode
      obtain ⟨key, hkey, documents, hdocuments, rfl⟩ := hencode
      obtain ⟨rfl, shape, hclass⟩ := classKey_ok hkey
      obtain ⟨declared, rfl, hnames, -⟩ := hshape shape hclass
      rw [decode_record classes constructors hclass] at hdecode
      obtain ⟨given, hgiven, hinstance⟩ := bind_ok.mp hdecode
      have hdistinct : (fields.map (·.1)).Nodup := by
        rw [hnames]
        exact nodup_declared hclasses hclass
      intro node hnode hloses
      rcases List.mem_cons.mp hnode with rfl | hinner
      · cases kind with
        | model => exact hloses
        | dataclass =>
            obtain ⟨hfield, others, hothers, field, hdeclared, hname, hdefault⟩ := hloses
            rw [hclass] at hothers
            cases hothers
            rw [instantiate] at hinstance
            split at hinstance
            · cases hinstance
            · obtain ⟨arguments, harguments, -⟩ := bind_ok.mp hinstance
              have habsent := member_encodeFields_none hdocuments hdistinct hfield rfl
              have hnone := find_decodeMembers_none hgiven habsent
              rw [← hname] at hnone
              exact bound_of_bindArguments harguments field hdeclared hnone hdefault
      · obtain ⟨pair, hpair, hin⟩ := mem_nodesOfFields.mp hinner
        cases hout : leftOut kind pair.1 pair.2 with
        | true =>
            obtain ⟨-, -, hnone⟩ := leftOut_eq_true hout
            rw [hnone, Value.nodes, List.mem_singleton] at hin
            subst hin
            exact hloses
        | false =>
            obtain ⟨document, hmember, hencoded⟩ :=
              member_encodeFields hdocuments hdistinct hpair hout
            obtain ⟨value, -, hvalue⟩ := find_decodeMembers hgiven hmember
            exact ih pair hpair hencoded hvalue node hin hloses
  | @tuple items _ ih =>
      rw [encode] at hencode
      simp only [bind_ok, pure, Except.pure, Except.ok.injEq] at hencode
      obtain ⟨documents, hdocuments, rfl⟩ := hencode
      rw [decode_tuple] at hdecode
      obtain ⟨others, hothers, -⟩ := map_ok.mp hdecode
      intro node hnode hloses
      rcases List.mem_cons.mp hnode with rfl | hinner
      · exact hloses
      · obtain ⟨item, hitem, hin⟩ := mem_nodesOfItems.mp hinner
        obtain ⟨document, other, hencoded, hother⟩ :=
          decode_of_decodeItems hdocuments hothers hitem
        exact ih item hitem hencoded hother node hin hloses
  | @list items _ ih =>
      rw [encode] at hencode
      simp only [bind_ok, pure, Except.pure, Except.ok.injEq] at hencode
      obtain ⟨documents, hdocuments, rfl⟩ := hencode
      rw [decode_list] at hdecode
      obtain ⟨others, hothers, -⟩ := map_ok.mp hdecode
      intro node hnode hloses
      rcases List.mem_cons.mp hnode with rfl | hinner
      · exact hloses
      · obtain ⟨item, hitem, hin⟩ := mem_nodesOfItems.mp hinner
        obtain ⟨document, other, hencoded, hother⟩ :=
          decode_of_decodeItems hdocuments hothers hitem
        exact ih item hitem hencoded hother node hin hloses
  | @dict items hkeys _ ih =>
      rw [encode] at hencode
      simp only [bind_ok, pure, Except.pure, Except.ok.injEq] at hencode
      obtain ⟨documents, hdocuments, rfl⟩ := hencode
      rw [decode_dict] at hdecode
      obtain ⟨others, hothers, -⟩ := map_ok.mp hdecode
      intro node hnode hloses
      rcases List.mem_cons.mp hnode with rfl | hinner
      · exact hloses
      · obtain ⟨item, hitem, hin⟩ := mem_nodesOfFields.mp hinner
        have hmem := (encodeDict_ok hdocuments).mem_iff.mpr (List.mem_map_of_mem hitem)
        obtain ⟨pair, hpair, heq⟩ := List.mem_map.mp hmem
        obtain ⟨other, -, -, hother⟩ :=
          exists_mem_of_forall₂ (decodeMembers_ok.mp hothers) hpair
        exact ih item hitem (congrArg Prod.snd heq).symm hother node hin hloses
  | _ =>
      intro node hnode hloses
      rw [Value.nodes, List.mem_singleton] at hnode
      subst hnode
      exact hloses

/-- The document of a value names each member of an object once. -/
theorem keyed_encode (hclasses : wellFormed classes = true)
    (hbuilt : Built classes constructors value) (hencode : encode classes value = .ok document) :
    Json.Keyed document := by
  have hpair : ∀ {kind first second : String} {one other : Json}, first ≠ second →
      first ≠ "$type" → second ≠ "$type" → Json.Keyed one → Json.Keyed other →
      Json.Keyed (tagged kind [(first, one), (second, other)]) := by
    intro kind first second one other hne hfirst hsecond hone hother
    refine .object ?_ ?_
    · simp [hne, hfirst.symm, hsecond.symm]
    · simp only [List.forall_mem_cons, List.not_mem_nil, false_implies, implies_true, and_true]
      exact ⟨.text _, hone, hother⟩
  have hsingle : ∀ {kind first : String} {one : Json}, first ≠ "$type" → Json.Keyed one →
      Json.Keyed (tagged kind [(first, one)]) := by
    intro kind first one hfirst hone
    refine .object ?_ ?_
    · simp [hfirst.symm]
    · simp only [List.forall_mem_cons, List.not_mem_nil, false_implies, implies_true, and_true]
      exact ⟨.text _, hone⟩
  induction hbuilt generalizing document with
  | none => cases hencode; exact .null
  | bool value => cases hencode; exact .bool _
  | int value => cases hencode; exact .number _
  | text value => cases hencode; exact .text _
  | decimal value => cases hencode; exact hsingle (by decide) (.text _)
  | datetime value => cases hencode; exact hsingle (by decide) (.text _)
  | date value => cases hencode; exact hsingle (by decide) (.text _)
  | timedelta value => cases hencode; exact hsingle (by decide) (.number _)
  | uuid value => cases hencode; exact hsingle (by decide) (.text _)
  | enum _ =>
      rw [encode] at hencode
      simp only [bind_ok, pure, Except.pure, Except.ok.injEq] at hencode
      obtain ⟨key, -, rfl⟩ := hencode
      exact hpair (by decide) (by decide) (by decide) (.text _) (.text _)
  | @record kind cls fields hshape _ ih =>
      rw [encode] at hencode
      simp only [bind_ok, pure, Except.pure, Except.ok.injEq] at hencode
      obtain ⟨key, hkey, documents, hdocuments, rfl⟩ := hencode
      obtain ⟨rfl, shape, hclass⟩ := classKey_ok hkey
      obtain ⟨declared, rfl, hnames, -⟩ := hshape shape hclass
      have hdistinct := nodup_declared hclasses hclass
      rw [← hnames] at hdistinct
      refine hpair (by decide) (by decide) (by decide) (.text _)
        (.object (hdistinct.sublist (names_encodeFields hdocuments)) fun pair hpair => ?_)
      obtain ⟨value, hvalue, -, hencoded⟩ := mem_encodeFields hdocuments hpair
      exact ih _ hvalue hencoded
  | @tuple items _ ih =>
      rw [encode] at hencode
      simp only [bind_ok, pure, Except.pure, Except.ok.injEq] at hencode
      obtain ⟨documents, hdocuments, rfl⟩ := hencode
      refine hsingle (by decide) (.array fun item hitem => ?_)
      obtain ⟨value, hvalue, hencoded⟩ :=
        exists_mem_of_forall₂ (List.Forall₂.flip (encodeItems_ok.mp hdocuments)) hitem
      exact ih value hvalue hencoded
  | @list items _ ih =>
      rw [encode] at hencode
      simp only [bind_ok, pure, Except.pure, Except.ok.injEq] at hencode
      obtain ⟨documents, hdocuments, rfl⟩ := hencode
      refine hsingle (by decide) (.array fun item hitem => ?_)
      obtain ⟨value, hvalue, hencoded⟩ :=
        exists_mem_of_forall₂ (List.Forall₂.flip (encodeItems_ok.mp hdocuments)) hitem
      exact ih value hvalue hencoded
  | @dict items hkeys _ ih =>
      rw [encode] at hencode
      simp only [bind_ok, pure, Except.pure, Except.ok.injEq] at hencode
      obtain ⟨documents, hdocuments, rfl⟩ := hencode
      have hperm := encodeDict_ok hdocuments
      refine hsingle (by decide)
        (.object ((names_encodeDict hperm).nodup_iff.mpr hkeys) fun pair hpair => ?_)
      obtain ⟨item, hitem, heq⟩ := List.mem_map.mp (hperm.mem_iff.mp (List.mem_map_of_mem hpair))
      exact ih item hitem (congrArg Prod.snd heq)
  | foreign reason => cases hencode

end AlphaDecay.AgentCodec
