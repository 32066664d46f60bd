import Retrieval.Json.Encoding
import Retrieval.Proofs.Sendable
import Retrieval.Proofs.Strings

/-!
The bodies of requests. A body is data with the document as its only part, written within ASCII.
Main statement: the document of every request is read back from the bytes of its body, so that
different documents are never sent in the same way.
-/

namespace Retrieval

namespace Text

theorem toList_loop_eq (bytes : ByteArray) (i : Nat) (done : List UInt8) :
    ByteArray.toList.loop bytes i done = done.reverse ++ bytes.data.toList.drop i := by
  fun_induction ByteArray.toList.loop bytes i done with
  | case1 i done hlt ih =>
    have hi : i < bytes.data.toList.length := by simpa using hlt
    have hget : bytes.get! i = bytes.data.toList[i] := by simp [ByteArray.get!, hlt]
    rw [ih, List.drop_eq_getElem_cons hi, List.reverse_cons, List.append_assoc, hget]
    rfl
  | case2 i done hge =>
    have hend : bytes.data.toList.length ≤ i := by simpa using Nat.le_of_not_lt hge
    rw [List.drop_eq_nil_of_le hend, List.append_nil]

/-- Within ASCII the bytes of a text are the codes of its characters. -/
theorem utf8Bytes_ascii {s : String} (h : ∀ c ∈ s.toList, c.toNat < 0x80) :
    utf8Bytes s = s.toList.map Char.toNat := by
  have hbytes : s.toUTF8.toList = s.toList.flatMap String.utf8EncodeChar := by
    have hofList : s.toUTF8 = (s.toList.flatMap String.utf8EncodeChar).toByteArray := by
      calc s.toByteArray = (String.ofList s.toList).toByteArray := by rw [String.ofList_toList]
        _ = s.toList.utf8Encode := String.toByteArray_ofList
    rw [hofList, ByteArray.toList, toList_loop_eq, List.toList_data_toByteArray]
    rfl
  have hchar : ∀ c : Char, c.toNat < 0x80 →
      (String.utf8EncodeChar c).map UInt8.toNat = [c.toNat] := by
    intro c hc
    have hsmall : c.val ≤ 127 := UInt32.le_iff_toNat_le.mpr (Nat.le_of_lt_succ hc)
    have hmod : c.toNat % 256 = c.toNat := Nat.mod_eq_of_lt (by omega)
    rw [String.utf8EncodeChar_eq_singleton (Char.utf8Size_eq_one_iff.mpr hsmall)]
    exact congrArg (fun n => [n]) hmod
  have hall (cs : List Char) (hcs : ∀ c ∈ cs, c.toNat < 0x80) :
      cs.flatMap (fun c => (String.utf8EncodeChar c).map UInt8.toNat) = cs.map Char.toNat := by
    rw [List.flatMap_congr fun c hc => hchar c (hcs c hc), List.map_eq_flatMap]
  rw [utf8Bytes, hbytes, List.map_flatMap, hall _ h]

end Text

namespace Json

open Text (joinHalves utf8Bytes)

/-- A body within ASCII that starts with two characters is read as its text. -/
theorem decodeBody_ascii {body : String} (h : ∀ c ∈ body.toList, c.toNat < 0x80)
    {a b : Char} {rest : List Char} (hbody : body.toList = a :: b :: rest)
    (ha : a.toNat ≠ 0) (hb : b.toNat ≠ 0) : decodeBody body = decode body := by
  have hbytes := Text.utf8Bytes_ascii h
  have hencoding : Encoding.ofBytes (utf8Bytes body) = .utf8 := by
    rw [hbytes, hbody]
    unfold Encoding.ofBytes
    split <;> simp_all
  have htext : Text.utf8Text (utf8Bytes body) = body.toList := by
    rw [hbytes, Text.utf8Text_ascii, List.map_map]
    · exact (List.map_congr_left fun c _ => Char.ofNat_toNat c).trans (List.map_id _)
    · exact List.forall_mem_map.mpr h
  have hmark : Encoding.withoutMark body.toList = body.toList := by
    have ha : a ≠ Encoding.byteOrderMark := by
      rintro rfl
      exact absurd (h _ (by rw [hbody]; exact List.mem_cons_self)) (by decide)
    rw [hbody, Encoding.withoutMark, if_neg ha]
  rw [decodeBody, hencoding]
  simp only [Encoding.text?, htext, hmark]
  rfl

/-- An object with one text is read from its written form, with the pairs in its texts joined. -/
theorem decodeChars_single (key cs : List Char) :
    decodeChars ('\x7b' :: '"' :: (narrowChars key ++ '"' :: ':' :: '"' ::
      (narrowChars cs ++ ['"', '\x7d']))) =
      .ok (.map [(String.ofList (joinHalves key), .text (String.ofList (joinHalves cs)))]) := by
  have hread (ds rest : List Char) : readString ((narrowChars ds ++ '"' :: rest).length + 1)
      (narrowChars ds ++ '"' :: rest) = .ok (joinHalves ds, rest) := by
    refine readString_narrowChars ds rest ?_
    have := length_le_length_narrowChars ds
    simp only [List.length_append, List.length_cons]
    omega
  have hspace (c : Char) (hc : isSpace c = false) (rest : List Char) :
      skipSpace (c :: rest) = c :: rest := List.dropWhile_cons_of_neg (by simp [hc])
  have hquote := hspace '"' (by decide)
  have hclose := hspace '\x7d' (by decide) []
  have hvalue (bound depth : Nat) :
      readValue (bound + 1) depth ('"' :: (narrowChars cs ++ ['"', '\x7d'])) =
        .ok (.text (.ofList (joinHalves cs)), ['\x7d']) := by
    rw [readValue, hread]
    rfl
  have hmembers (bound depth : Nat) : readMembers (bound + 2) depth []
      ('"' :: (narrowChars key ++ '"' :: ':' :: '"' :: (narrowChars cs ++ ['"', '\x7d']))) =
      .ok ([(.ofList (joinHalves key), .text (.ofList (joinHalves cs)))], []) := by
    rw [readMembers]
    simp only [hread, hspace ':' (by decide), hquote, hvalue, hclose]
    rfl
  have hobject (bound depth : Nat) (rest : List Char) :
      readValue (bound + 1) (depth + 1) ('\x7b' :: '"' :: rest) =
        (readMembers bound depth [] ('"' :: rest)).map fun read => (.map read.1, read.2) := by
    rw [readValue]
    simp only [hquote]
    rfl
  have hdepth : maxDepth = 949 + 1 := rfl
  rw [decodeChars, hspace '\x7b' (by decide), hdepth, List.length_cons, List.length_cons,
    hobject, hmembers]
  rfl

end Json

/-- The characters of a body: an object with the document as its only part. -/
theorem toList_body (r : Request) : r.body.toList =
    '\x7b' :: '"' :: (Json.narrowChars "query".toList ++ '"' :: ':' :: '"' ::
      (Json.narrowChars r.query.toList ++ ['"', '\x7d'])) := by
  have hopen : "\x7b\"query\":".toList =
      '\x7b' :: '"' :: (Json.narrowChars "query".toList ++ ['"', ':']) := by decide
  have hclose : "\x7d".toList = ['\x7d'] := by decide
  rw [Request.body, String.toList_append, String.toList_append, hopen, hclose, Json.asciiString,
    String.toList_ofList]
  simp only [List.cons_append, List.append_assoc, List.nil_append, String.toList_ofList]

theorem toNat_lt_of_mem_body (r : Request) : ∀ c ∈ r.body.toList, c.toNat < 0x80 := by
  have hopen : ∀ c ∈ "\x7b\"query\":".toList, c.toNat < 0x80 := by simp
  have hclose : ∀ c ∈ "\x7d".toList, c.toNat < 0x80 := by simp
  rw [Request.body, String.toList_append, String.toList_append]
  exact List.forall_mem_append.mpr ⟨List.forall_mem_append.mpr
    ⟨hopen, Json.toNat_lt_of_mem_asciiString r.query⟩, hclose⟩

/-- The document of a request as it is read: with the character of each pair whose halves stand side
by side in it. -/
def Request.readQuery (r : Request) : String := String.ofList (Text.joinHalves r.query.toList)

theorem Request.readQuery_of_apart {r : Request} (h : Text.HalvesApart r.query.toList) :
    r.readQuery = r.query := by
  rw [readQuery, Text.joinHalves_of_apart h, String.ofList_toList]

theorem decodeBody_body (r : Request) :
    Json.decodeBody r.body = .ok (.map [("query", .text r.readQuery)]) := by
  have hbody := toList_body r
  have hkey : String.ofList (Text.joinHalves "query".toList) = "query" := by decide
  rw [Json.decodeBody_ascii (toNat_lt_of_mem_body r) hbody (by decide) (by decide), Json.decode,
    hbody, Json.decodeChars_single, hkey]
  rfl

/-- The bytes of a body lie within ASCII and read back as an object whose only part is the document,
whatever characters the document has, but that halves of a pair, which are no characters, are joined
where they stand side by side. So requests with different documents have different bodies, if no
such halves stand in them. -/
theorem body_reads_back (r : Request) :
    (∀ b ∈ Text.utf8Bytes r.body, b < 0x80) ∧
    Json.decodeBody r.body = .ok (.map [("query", .text r.readQuery)]) ∧
    (Text.HalvesApart r.query.toList →
      Json.decodeBody r.body = .ok (.map [("query", .text r.query)]) ∧
      ∀ other : Request, Text.HalvesApart other.query.toList → other.query ≠ r.query →
        other.body ≠ r.body) ∧
    (Text.isEncodable r.query = true → Text.HalvesApart r.query.toList) := by
  have hascii := toNat_lt_of_mem_body r
  refine ⟨?_, decodeBody_body r, fun hapart => ⟨?_, fun other hother hne hsame => hne ?_⟩,
    Text.halvesApart_of_isEncodable⟩
  · rw [Text.utf8Bytes_ascii hascii]
    exact List.forall_mem_map.mpr hascii
  · rw [decodeBody_body, Request.readQuery_of_apart hapart]
  · have hread := decodeBody_body other
    rw [hsame, decodeBody_body r, Request.readQuery_of_apart hapart,
      Request.readQuery_of_apart hother] at hread
    simpa using hread.symm

/-- A document with a quote, a line break and characters far beyond ASCII. -/
def oddRequest : Request :=
  { query := "\x7b Get \x7b A(where: \x7bvalueText: \"\\\"é𝄞\n\"\x7d) \x7d \x7d", members := [],
    multiplexed := false }

theorem body_reads_back_odd : Text.isEncodable oddRequest.query = true ∧
    Json.decodeBody oddRequest.body = .ok (.map [("query", .text oddRequest.query)]) := by
  have hencodable : Text.isEncodable oddRequest.query = true := by decide
  obtain ⟨-, -, hread, hapart⟩ := body_reads_back oddRequest
  exact ⟨hencodable, (hread (hapart hencodable)).1⟩

end Retrieval
