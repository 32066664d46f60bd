import Retrieval.Proofs.Dropping
import Retrieval.Proofs.Lookups

/-!
Texts that are generated for single records. Main statements: the entries stand in the order of the
records, each is made of its own item alone, and an item in the place of another changes no other
entry; only a placeholder that stumbles in a record can keep a chat from being filled in.
-/

namespace Retrieval

namespace Compilation

/-- A member for which something is generated asks for records. -/
theorem operation_of_generation {c : Clause} {key : String} {plan : GenerationPlan}
    (h : (memberOf c key).generation = some plan) : (memberOf c key).operation = .get := by
  unfold memberOf at h ⊢
  cases haggregate : c.aggregate with
  | none => rfl
  | some a => simp [haggregate] at h

end Compilation

namespace Envelope

open Schema
open Template (HasStumbling StandsFor)

variable {m : Member} {multiplexed : Bool} {es : Entries Value} {items : List Value}
  {chat : Option (List ChatMessage)} {r : QueryResult}

/-- The plan for texts that are generated for single records, from a chat if there is one. -/
def perRecordPlan : Option (List ChatMessage) → GenerationPlan
  | none => .perRecord
  | some messages => .perRecordChat messages

/-- A member for which a text is generated for each record. -/
structure IsPerRecord (m : Member) (chat : Option (List ChatMessage)) : Prop where
  operation : m.operation = .get
  generation : m.generation = some (perRecordPlan chat)

/-- A chat that is filled in from a record, if there is one. -/
def fillChat (chat : Option (List ChatMessage)) (record : Entries Value) :
    Reading (Option (List ChatMessage)) :=
  match chat with
  | none => .ok none
  | some messages => some <$> messages.mapM (fillMessage record)

/-- The error of a record: one is made up if there is neither a text nor an error. -/
def entryError (generated : Entries Value) : Value :=
  match field "singleResult" generated, field "error" generated with
  | .null, .null => .text nothingGenerated
  | _, e => e

theorem readEntry_eq_ok_iff {raw : RawRecord} {e : GeneratedEntry} :
    readEntry chat raw = .ok e ↔ ∃ generated prompt result error,
      blockAt "generate" raw.additional = .ok generated ∧
      fillChat chat raw.record.properties = .ok prompt ∧
      optional text (field "singleResult" generated) = .valid result ∧
      optional text (entryError generated) = .valid error ∧
      e = ⟨raw.record, result, error, prompt⟩ := by
  have hread : readEntry chat raw = (do
      let generated ← blockAt "generate" raw.additional
      let prompt ← fillChat chat raw.record.properties
      checked ((fun result error => ⟨raw.record, result, error, prompt⟩)
        <$> given "result" (optional text) (field "singleResult" generated)
        <*> given "error" (optional text) (entryError generated))) := by
    cases chat <;> rfl
  rw [hread]
  simp only [bind_eq_ok_iff, checked_eq_ok_iff, seq_eq_valid_iff, map_eq_valid_iff,
    given_eq_valid_iff]
  constructor
  · rintro ⟨generated, hgenerated, prompt, hprompt, _, error, ⟨result, hresult, rfl⟩, herror, rfl⟩
    exact ⟨generated, prompt, result, error, hgenerated, hprompt, hresult, herror, rfl⟩
  · rintro ⟨generated, prompt, result, error, hgenerated, hprompt, hresult, herror, rfl⟩
    exact ⟨generated, hgenerated, prompt, hprompt, _, error, ⟨result, hresult, rfl⟩, herror, rfl⟩

theorem entryError_ne_null {generated : Entries Value}
    (h : field "singleResult" generated = .null) : entryError generated ≠ .null := by
  unfold entryError
  rw [h]
  split
  · exact nofun
  · next hother =>
    intro herror
    exact hother rfl herror

/-- An entry without a text has an error. -/
theorem error_of_readEntry {raw : RawRecord} {e : GeneratedEntry}
    (h : readEntry chat raw = .ok e) (hresult : e.result = none) : e.error.isSome := by
  obtain ⟨generated, prompt, result, error, -, -, htext, herror, rfl⟩ := readEntry_eq_ok_iff.mp h
  dsimp only at hresult
  rw [hresult] at htext
  have hne := entryError_ne_null (eq_null_of_optional htext)
  rw [Option.isSome_iff_ne_none]
  rintro hnone
  dsimp only at hnone
  rw [hnone] at herror
  exact hne (eq_null_of_optional herror)

/-- A message is what is filled in from a record in the place of another. -/
def IsFilledFrom (record : Entries Value) (template message : ChatMessage) : Prop :=
  message.role = template.role ∧ Template.fill template.content record = .ok message.content

/-- An entry has a prompt exactly if there is a chat, and then one message for each of the chat. -/
def HasPrompt (chat : Option (List ChatMessage)) (e : GeneratedEntry) : Prop :=
  match chat with
  | none => e.prompt = none
  | some messages =>
    ∃ prompt, e.prompt = some prompt ∧
      List.Forall₂ (IsFilledFrom e.record.properties) messages prompt

theorem fillMessage_eq_ok_iff {record : Entries Value} {template message : ChatMessage} :
    fillMessage record template = .ok message ↔ IsFilledFrom record template message := by
  unfold fillMessage IsFilledFrom
  cases Template.fill template.content record with
  | error e => simp
  | ok content => cases message; simp [eq_comm]

theorem exists_fillMessage_iff {record : Entries Value} {template : ChatMessage} :
    (∃ message, fillMessage record template = .ok message) ↔
      ¬ HasStumbling template.content record := by
  rw [← Template.exists_fill_iff]
  simp only [fillMessage_eq_ok_iff, IsFilledFrom]
  constructor
  · rintro ⟨message, -, htext⟩
    exact ⟨message.content, htext⟩
  · rintro ⟨text, htext⟩
    exact ⟨⟨template.role, text⟩, rfl, htext⟩

theorem hasPrompt_of_readEntry {raw : RawRecord} {e : GeneratedEntry}
    (h : readEntry chat raw = .ok e) : HasPrompt chat e := by
  obtain ⟨_, prompt, _, _, -, hprompt, -, -, rfl⟩ := readEntry_eq_ok_iff.mp h
  cases chat with
  | none => exact (Except.ok.inj hprompt).symm
  | some messages =>
    obtain ⟨filled, hfilled, rfl⟩ := map_eq_ok_iff.mp hprompt
    refine ⟨filled, rfl, ?_⟩
    rw [mapM_eq_ok_iff_forall₂] at hfilled
    exact hfilled.imp fun _ _ => fillMessage_eq_ok_iff.mp

theorem readGenerated_outcome (raw : List RawRecord) :
    (readGenerated m raw (perRecordPlan chat)).outcome =
      Generated.perRecord <$> raw.mapM (readEntry chat) := by
  have hentries : (readGenerated.perRecord m raw chat).outcome =
      Generated.perRecord <$> raw.mapM (readEntry chat) := by
    unfold readGenerated.perRecord
    cases raw.mapM (readEntry chat) <;> rfl
  cases chat <;> exact hentries

/-- The result of a member with generated texts, from the items that are read for it. -/
theorem normalize_eq_ok_iff (hm : IsPerRecord m chat) {v : Value} :
    (normalize m multiplexed v).outcome = .ok r ↔ ∃ errors items totals raw extent entries,
      partsOf m multiplexed v = .ok (errors, items, totals) ∧
      (mappings items).mapM (readRecord m.selection) = .ok raw ∧
      (totalOf m totals >>= extentOf raw.length) = .ok extent ∧
      raw.mapM (readEntry chat) = .ok entries ∧
      r = .records ⟨m.collection, raw.map RawRecord.record, extent, some (.perRecord entries),
        errors ++ droppedErrors m errors (readItems (readRecord m.selection) 0 items).dropped⟩ := by
  rw [normalize_outcome]
  simp only [bind_eq_ok_iff, readParts, hm.operation, accountOf_outcome, readItems_outcome,
    finishRecords_outcome, recordResult, hm.generation, readGenerated_outcome]
  constructor
  · rintro ⟨⟨errors, items, totals⟩, hparts, raw, hraw, total, htotal, extent, hextent, generated,
      hgenerated, hr⟩
    obtain ⟨part, hpart, rfl⟩ := map_eq_ok_iff.mp hgenerated
    obtain ⟨entries, hentries, rfl⟩ := map_eq_ok_iff.mp hpart
    exact ⟨errors, items, totals, raw, extent, entries, hparts, hraw, ⟨total, htotal, hextent⟩,
      hentries, (Except.ok.inj hr).symm⟩
  · rintro ⟨errors, items, totals, raw, extent, entries, hparts, hraw, ⟨total, htotal, hextent⟩,
      hentries, rfl⟩
    exact ⟨(errors, items, totals), hparts, raw, hraw, total, htotal, extent, hextent,
      some (.perRecord entries), by rw [hentries]; rfl, rfl⟩

theorem items_of_partsOf {errors : List ReportedError} {others : List Value} {totals : Value}
    (h : partsOf m multiplexed (.map es) = .ok (errors, others, totals))
    (hsection : sectionAt m es = some (.list items)) : others = items := by
  rw [partsOf, fieldsOf, ok_bind, section?_of_sectionAt hsection] at h
  obtain ⟨_, -, h⟩ := bind_eq_ok_iff.mp h
  rw [ok_bind] at h
  obtain ⟨_, -, h⟩ := bind_eq_ok_iff.mp h
  cases h
  rfl

/-- The records of a result are what the mappings of its section are read as, and the entries are
read from them. -/
theorem exists_entries_of_normalize (hm : IsPerRecord m chat)
    (hsection : sectionAt m es = some (.list items))
    (h : (normalize m multiplexed (.map es)).outcome = .ok r) : ∃ raw result entries,
      (mappings items).mapM (readRecord m.selection) = .ok raw ∧
      raw.mapM (readEntry chat) = .ok entries ∧ r = .records result ∧
      result.records = raw.map RawRecord.record ∧
      result.generated = some (.perRecord entries) := by
  obtain ⟨errors, others, totals, raw, extent, entries, hparts, hraw, -, hentries, rfl⟩ :=
    (normalize_eq_ok_iff hm).mp h
  obtain rfl := items_of_partsOf hparts hsection
  exact ⟨raw, _, entries, hraw, hentries, rfl, rfl, rfl⟩

/-- How many mappings there are before an item: its place among the records, if it is a mapping. -/
def placeOf (items : List Value) (j : Nat) : Nat := (mappings (items.take j)).length

/-- A mapping in the place of another is found in its place. -/
theorem mappings_set {j : Nat} {old : Value} (h : items[j]? = some old)
    (hold : old.entries?.isSome) (new : Entries Value) :
    mappings (items.set j (.map new)) = (mappings items).set (placeOf items j) new := by
  induction items generalizing j with
  | nil => cases h
  | cons v rest ih =>
    cases j with
    | zero =>
      obtain rfl := Option.some.inj h
      cases v with
      | map es => rfl
      | _ => cases hold
    | succ j =>
      have hrest := ih (j := j) h
      cases v with
      | map es => exact congrArg (es :: ·) hrest
      | _ => exact hrest

/-- A mapping in the place of an item that is none comes among the others. -/
theorem mappings_set_stray {j : Nat} {old : Value} (h : items[j]? = some old)
    (hold : old.entries? = none) (new : Entries Value) :
    (mappings (items.set j (.map new))).eraseIdx (placeOf items j) = mappings items := by
  induction items generalizing j with
  | nil => cases h
  | cons v rest ih =>
    cases j with
    | zero =>
      obtain rfl := Option.some.inj h
      exact (List.filterMap_cons_none hold).symm
    | succ j =>
      have hrest := ih (j := j) h
      cases v with
      | map es => exact congrArg (es :: ·) hrest
      | _ => exact hrest

/-- Texts for single records go with their records. The entries are those of the records, in their
order. One without a text has an error, and there is a prompt with a message for each message of the
chat if there is a chat. A mapping in the place of an item changes the record and the entry of this
item alone, or adds them if the item was no mapping. -/
theorem entries_isolated (hm : IsPerRecord m chat)
    (hsection : sectionAt m es = some (.list items))
    (h : (normalize m multiplexed (.map es)).outcome = .ok r) : ∃ result entries,
      r = .records result ∧ result.generated = some (.perRecord entries) ∧
      entries.map GeneratedEntry.record = result.records ∧
      (∀ e ∈ entries, (e.result = none → e.error.isSome) ∧ HasPrompt chat e) ∧
      ∀ j old new r', items[j]? = some old →
        (normalize m multiplexed
          (.map (withSection m (.list (items.set j (.map new))) es))).outcome = .ok r' →
        ∃ result' entries', r' = .records result' ∧
          result'.generated = some (.perRecord entries') ∧
          (old.entries?.isSome → entries'.length = entries.length ∧
            ∀ k, k ≠ placeOf items j →
              result'.records[k]? = result.records[k]? ∧ entries'[k]? = entries[k]?) ∧
          (old.entries? = none →
            result'.records.eraseIdx (placeOf items j) = result.records ∧
              entries'.eraseIdx (placeOf items j) = entries) := by
  obtain ⟨raw, result, entries, hraw, hentries, rfl, hrecords, hgenerated⟩ :=
    exists_entries_of_normalize hm hsection h
  refine ⟨result, entries, rfl, hgenerated, ?_, fun e he => ?_, ?_⟩
  · rw [hrecords]
    exact map_eq_of_mapM_eq_ok (fun _ _ => record_of_readEntry) hentries
  · obtain ⟨raw, -, hread⟩ := exists_of_mem_of_mapM_eq_ok hentries he
    exact ⟨error_of_readEntry hread, hasPrompt_of_readEntry hread⟩
  · intro j old new r' hitem h'
    obtain ⟨raw', result', entries', hraw', hentries', rfl, hrecords', hgenerated'⟩ :=
      exists_entries_of_normalize hm (sectionAt_withSection ..) h'
    refine ⟨result', entries', rfl, hgenerated', fun hold => ?_, fun hold => ?_⟩
    · rw [mappings_set hitem hold] at hraw'
      have hlength : raw'.length = raw.length := by
        rw [length_of_mapM_eq_ok hraw', length_of_mapM_eq_ok hraw, List.length_set]
      refine ⟨?_, fun k hk => ?_⟩
      · rw [length_of_mapM_eq_ok hentries', length_of_mapM_eq_ok hentries, hlength]
      · have hraws : raw'[k]? = raw[k]? :=
          getElem?_congr_of_mapM_eq_ok hraw hraw' (List.getElem?_set_ne (Ne.symm hk))
        refine ⟨?_, getElem?_congr_of_mapM_eq_ok hentries hentries' hraws⟩
        rw [hrecords', hrecords, List.getElem?_map, List.getElem?_map, hraws]
    · -- without the mapping that was put in, the same records are read
      have hraws : raw'.eraseIdx (placeOf items j) = raw := by
        have herased := mapM_eraseIdx_eq_ok hraw' (placeOf items j)
        rw [mappings_set_stray hitem hold, hraw] at herased
        exact (Except.ok.inj herased).symm
      have herased := mapM_eraseIdx_eq_ok hentries' (placeOf items j)
      rw [hraws, hentries] at herased
      refine ⟨?_, (Except.ok.inj herased).symm⟩
      rw [hrecords', hrecords, List.eraseIdx_map, hraws]

/-- A member that asks about each author in a chat. -/
def askedMember (content : String) : Member :=
  Compilation.memberOf { collection := "Author",
                         generation := some (.perRecord (.chat [⟨.user, content⟩])
                           ⟨none, none, none, none⟩) }
    "Author"

theorem isPerRecord_askedMember (content : String) :
    IsPerRecord (askedMember content) (some [⟨.user, content⟩]) where
  operation := Compilation.operation_of_generation rfl
  generation := rfl

/-- An answer with a section of authors. -/
def authorsFound (items : List Value) : Entries Value :=
  [("data", .map [("Get", .map [("Author", .list items)])])]

/-- With another author in the place of the first, whose name looks like a placeholder, the second
one has the same entry. -/
theorem entries_isolated_asked : ∃ result result' entries entries',
    (normalize (askedMember "Who is \x7bname\x7d?") false (.map (authorsFound
      [.null, .map [("name", .text "Ada")], .map [("name", .text "Grace")]]))).outcome =
        .ok (.records result) ∧
    (normalize (askedMember "Who is \x7bname\x7d?") false (.map (authorsFound
      [.null, .map [("name", .text "\x7bage\x7d")], .map [("name", .text "Grace")]]))).outcome =
        .ok (.records result') ∧
    result.generated = some (.perRecord entries) ∧
    result'.generated = some (.perRecord entries') ∧
    (∀ e ∈ entries, (e.result = none → e.error.isSome) ∧
      HasPrompt (some [⟨.user, "Who is \x7bname\x7d?"⟩]) e) ∧
    entries'[1]? = entries[1]? := by
  obtain ⟨r, h⟩ : ∃ r, (normalize (askedMember "Who is \x7bname\x7d?") false (.map (authorsFound
      [.null, .map [("name", .text "Ada")], .map [("name", .text "Grace")]]))).outcome = .ok r :=
    ⟨_, rfl⟩
  obtain ⟨r', h'⟩ : ∃ r, (normalize (askedMember "Who is \x7bname\x7d?") false (.map (authorsFound
      [.null, .map [("name", .text "\x7bage\x7d")],
        .map [("name", .text "Grace")]]))).outcome = .ok r :=
    ⟨_, rfl⟩
  obtain ⟨result, entries, rfl, hgenerated, -, hentries, hisolated⟩ :=
    entries_isolated (isPerRecord_askedMember _) rfl h
  obtain ⟨result', entries', rfl, hgenerated', hreplaced, -⟩ :=
    hisolated 1 (.map [("name", .text "Ada")]) [("name", .text "\x7bage\x7d")] r' rfl h'
  exact ⟨result, result', entries, entries', h, h', hgenerated, hgenerated', hentries,
    ((hreplaced rfl).2 1 (by decide)).2⟩

/-- All that a chat adds to the reading of an entry is that it must be filled in. -/
theorem exists_readEntry_iff {messages : List ChatMessage} {raw : RawRecord} :
    (∃ e, readEntry (some messages) raw = .ok e) ↔
      (∃ e, readEntry none raw = .ok e) ∧
        ∀ message ∈ messages, ¬ HasStumbling message.content raw.record.properties := by
  have hfill : (∃ prompt, fillChat (some messages) raw.record.properties = .ok prompt) ↔
      ∀ message ∈ messages, ¬ HasStumbling message.content raw.record.properties := by
    simp only [← exists_fillMessage_iff, ← exists_mapM_eq_ok_iff]
    constructor
    · rintro ⟨prompt, hprompt⟩
      obtain ⟨filled, hfilled, -⟩ := map_eq_ok_iff.mp hprompt
      exact ⟨filled, hfilled⟩
    · rintro ⟨filled, hfilled⟩
      exact ⟨some filled, map_eq_ok_iff.mpr ⟨filled, hfilled, rfl⟩⟩
  rw [← hfill]
  simp only [readEntry_eq_ok_iff]
  constructor
  · rintro ⟨_, generated, prompt, result, error, hgenerated, hprompt, hresult, herror, -⟩
    exact ⟨⟨_, generated, none, result, error, hgenerated, rfl, hresult, herror, rfl⟩,
      prompt, hprompt⟩
  · rintro ⟨⟨_, generated, -, result, error, hgenerated, -, hresult, herror, -⟩, prompt, hprompt⟩
    exact ⟨_, generated, prompt, result, error, hgenerated, hprompt, hresult, herror, rfl⟩

/-- The member that asks for the same records, without a chat to be filled in. -/
def withoutChat (m : Member) : Member := { m with generation := some .perRecord }

theorem partsOf_withoutChat (v : Value) :
    partsOf (withoutChat m) multiplexed v = partsOf m multiplexed v := by
  have herrors (vs : List Value) :
      readErrors (withoutChat m) multiplexed vs = readErrors m multiplexed vs := by
    induction vs with
    | nil => rfl
    | cons v rest ih => rw [readErrors, readErrors, ih]; cases v <;> rfl
  unfold partsOf errorsFor
  simp only [herrors]
  rfl

/-- Filling in fails only for a placeholder that stumbles, and what a placeholder does not find in a
record is left as it is. The result of a member that asks in a chat is missing exactly if that of
the same member without the chat is, or if a placeholder of the chat stumbles in one of the
records. -/
theorem filled_unless_stumbling (template : String) (record : Entries Value) :
    ((∃ text, Template.fill template record = .ok text) ↔ ¬ HasStumbling template record) ∧
    (∀ text, Template.fill template record = .ok text → ∃ texts,
      List.Forall₂ (StandsFor record) (Template.pieces template.toList) texts ∧
        text = String.ofList texts.flatten) ∧
    ∀ m messages multiplexed v, IsPerRecord m (some messages) →
      ((∃ r, (normalize m multiplexed v).outcome = .ok r) ↔ ∃ result,
        (normalize (withoutChat m) multiplexed v).outcome =
          .ok (.records result) ∧
        ∀ r ∈ result.records, ∀ message ∈ messages,
          ¬ HasStumbling message.content r.properties) := by
  refine ⟨Template.exists_fill_iff, fun text => Template.exists_standsFor_of_fill, ?_⟩
  intro m messages multiplexed v hm
  have hbare : IsPerRecord (withoutChat m) none := ⟨hm.operation, rfl⟩
  -- the two members read the same records and differ in the entries
  have hall (raw : List RawRecord) :
      (∃ entries, raw.mapM (readEntry (some messages)) = .ok entries) ↔
      (∃ entries, raw.mapM (readEntry none) = .ok entries) ∧
        ∀ r ∈ raw.map RawRecord.record, ∀ message ∈ messages,
          ¬ HasStumbling message.content r.properties := by
    simp only [exists_mapM_eq_ok_iff, exists_readEntry_iff, List.forall_mem_map]
    exact ⟨fun h => ⟨fun raw hraw => (h raw hraw).1, fun raw hraw => (h raw hraw).2⟩,
      fun h raw hraw => ⟨h.1 raw hraw, h.2 raw hraw⟩⟩
  constructor
  · rintro ⟨r, hr⟩
    obtain ⟨errors, items, totals, raw, extent, entries, hparts, hraw, hextent, hentries, rfl⟩ :=
      (normalize_eq_ok_iff hm).mp hr
    obtain ⟨⟨others, hothers⟩, hfree⟩ := (hall raw).mp ⟨entries, hentries⟩
    rw [← partsOf_withoutChat] at hparts
    exact ⟨_, (normalize_eq_ok_iff hbare).mpr
      ⟨errors, items, totals, raw, extent, others, hparts, hraw, hextent, hothers, rfl⟩, hfree⟩
  · rintro ⟨result, hresult, hfree⟩
    obtain ⟨errors, items, totals, raw, extent, others, hparts, hraw, hextent, hothers, heq⟩ :=
      (normalize_eq_ok_iff hbare).mp hresult
    obtain rfl := QueryResult.records.inj heq
    rw [partsOf_withoutChat] at hparts
    obtain ⟨entries, hentries⟩ := (hall raw).mpr ⟨⟨others, hothers⟩, hfree⟩
    exact ⟨_, (normalize_eq_ok_iff hm).mpr
      ⟨errors, items, totals, raw, extent, entries, hparts, hraw, hextent, hentries, rfl⟩⟩

/-- An author with one tag. -/
def taggedAuthor : Entries Value := [("tags", .list [.text "poet"])]

/-- The number of a tag that is missing does no harm, a superscript in its place does. -/
theorem filled_unless_stumbling_tagged :
    ¬ HasStumbling "\x7btags.0\x7d \x7btags.9\x7d" taggedAuthor ∧
    (∃ texts, List.Forall₂ (StandsFor taggedAuthor)
      (Template.pieces "\x7btags.0\x7d \x7btags.9\x7d".toList) texts ∧
        "poet \x7btags.9\x7d" = String.ofList texts.flatten) ∧
    HasStumbling "\x7btags.²\x7d" taggedAuthor ∧
    (∃ r, (normalize (askedMember "\x7btags.0\x7d \x7btags.9\x7d") false
      (.map (authorsFound [.map taggedAuthor]))).outcome = .ok r) ∧
    ¬ ∃ r, (normalize (askedMember "\x7btags.²\x7d") false
      (.map (authorsFound [.map taggedAuthor]))).outcome = .ok r := by
  obtain ⟨hfill, hstands, hresult⟩ :=
    filled_unless_stumbling "\x7btags.0\x7d \x7btags.9\x7d" taggedAuthor
  obtain ⟨hfill', -, hresult'⟩ := filled_unless_stumbling "\x7btags.²\x7d" taggedAuthor
  have hfree : ¬ HasStumbling "\x7btags.0\x7d \x7btags.9\x7d" taggedAuthor :=
    hfill.mp ⟨"poet \x7btags.9\x7d", rfl⟩
  have hstumbling : HasStumbling "\x7btags.²\x7d" taggedAuthor := by
    by_contra hnot
    obtain ⟨text, htext⟩ := hfill'.mpr hnot
    cases htext
  have hbare (content : String) : ∃ result,
      (normalize (withoutChat (askedMember content)) false
        (.map (authorsFound [.map taggedAuthor]))).outcome = .ok (.records result) ∧
      result.records = [⟨taggedAuthor, none⟩] := ⟨_, rfl, rfl⟩
  refine ⟨hfree, hstands _ rfl, hstumbling, ?_, ?_⟩
  · obtain ⟨result, hr, hrecords⟩ := hbare "\x7btags.0\x7d \x7btags.9\x7d"
    refine (hresult _ _ _ _ (isPerRecord_askedMember _)).mpr ⟨result, hr, ?_⟩
    simpa [hrecords] using hfree
  · intro hread
    obtain ⟨result, hr, hnone⟩ := (hresult' _ _ _ _ (isPerRecord_askedMember _)).mp hread
    obtain ⟨_, hr', hrecords⟩ := hbare "\x7btags.²\x7d"
    obtain rfl := QueryResult.records.inj (Except.ok.inj (hr.symm.trans hr'))
    simp [hrecords, hstumbling] at hnone

end Envelope

end Retrieval
