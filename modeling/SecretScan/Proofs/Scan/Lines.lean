import SecretScan.Proofs.Scan.Content
import SecretScan.Proofs.Text.Utf8

/-!
# The lines of a content

What a scan reports is said here without a reader: cut the content at its line feeds, number the
pieces, and look at each piece on its own (`Matchers.scan_reports_lines`).  If the content is a
text, cutting its bytes comes to the same as cutting the text, so the reported lines are those of
the text that are reported when they are checked alone.
-/

namespace SecretScan

namespace Line

variable {α : Type} [DecidableEq α]

/-! ## 1. Cutting at separators -/

/-- The lines of a content: what stands between line feeds, without an empty last piece, and each
without one carriage return at its end. -/
def lines (feed ret : α) (xs : List α) : List (List α) :=
  (dropFinal [] (xs.splitOn feed)).map (dropFinal ret)

theorem terminated_cons (separator a : α) (xs : List α) :
    terminated separator (a :: xs) = extend separator a (terminated separator xs) :=
  List.foldr_cons ..

theorem dropFinal_cons (mark a : α) {xs : List α} (h : xs ≠ []) :
    dropFinal mark (a :: xs) = a :: dropFinal mark xs := by
  obtain ⟨b, xs, rfl⟩ := List.exists_cons_of_ne_nil h
  rw [dropFinal, dropFinal, List.getLast?_cons_cons, List.dropLast_cons_cons]
  split <;> rfl

/-- Only an empty last piece tells the two ways of cutting apart. -/
theorem terminated_eq (separator : α) (xs : List α) :
    terminated separator xs = dropFinal [] (split separator xs) := by
  induction xs with
  | nil => rfl
  | cons a xs ih =>
    have hne := split_ne_nil separator xs
    rw [split_cons, terminated_cons, ih]
    unfold extend
    split
    · exact (dropFinal_cons [] [] hne).symm
    · obtain ⟨piece, rest, hpieces⟩ := List.exists_cons_of_ne_nil hne
      rw [hpieces]
      dsimp only
      cases rest with
      | nil =>
        -- the element begins a line of its own, or it comes before the only one
        cases piece <;> rfl
      | cons next rest =>
        rw [dropFinal_cons [] piece (List.cons_ne_nil _ _),
          dropFinal_cons [] (a :: piece) (List.cons_ne_nil _ _)]

theorem lines_eq (feed ret : α) (xs : List α) :
    lines feed ret xs = (terminated feed xs).map (dropFinal ret) := by
  rw [lines, terminated_eq, split_eq_splitOn]

theorem dropFinal_map {β : Type} [DecidableEq β] {f : α → β} (hf : Function.Injective f)
    (mark : α) (xs : List α) : dropFinal (f mark) (xs.map f) = (dropFinal mark xs).map f := by
  have hlast : (xs.map f).getLast? = some (f mark) ↔ xs.getLast? = some mark := by
    rw [List.getLast?_map]
    exact (Option.map_injective hf).eq_iff (b := some mark)
  unfold dropFinal
  rw [apply_ite (List.map f), List.map_dropLast]
  exact if_congr hlast rfl rfl

end Line

namespace Utf8

/-! ## 2. Cutting the bytes of a text -/

theorem eq_ofNat_iff {b : UInt8} {n : Nat} (h : n < 256) : b = UInt8.ofNat n ↔ b.toNat = n := by
  rw [← UInt8.toNat_inj, toNat_ofNat_of_lt h]

theorem mem_encodeChar {b : UInt8} {c : Char} (hb : b.toNat < 0x80) :
    b ∈ String.utf8EncodeChar c ↔ c.toNat = b.toNat := by
  have hlt : c.val.toNat < 0x110000 := c.valid.elim (fun h => Nat.lt_trans h (by decide)) And.right
  show _ ↔ c.val.toNat = _
  simp only [String.utf8EncodeChar]
  generalize c.val.toNat = v at *
  -- all bytes but those of ASCII characters are large
  split_ifs with hone htwo hthree <;> simp only [List.mem_cons, List.not_mem_nil, or_false]
  · rw [eq_ofNat_iff (by omega)]
    exact eq_comm
  · rw [eq_ofNat_iff (by omega), eq_ofNat_iff (by omega)]
    omega
  · rw [eq_ofNat_iff (by omega), eq_ofNat_iff (by omega), eq_ofNat_iff (by omega)]
    omega
  · rw [eq_ofNat_iff (by omega), eq_ofNat_iff (by omega), eq_ofNat_iff (by omega),
      eq_ofNat_iff (by omega)]
    omega

theorem encode_injective : Function.Injective encode := fun _ _ h =>
  Except.ok.inj ((decode_eq_ok_iff.mpr rfl).symm.trans (decode_eq_ok_iff.mpr h))

theorem encode_append (cs ds : List Char) : encode (cs ++ ds) = encode cs ++ encode ds :=
  List.flatMap_append ..

theorem encode_cons (c : Char) (cs : List Char) :
    encode (c :: cs) = String.utf8EncodeChar c ++ encode cs := List.flatMap_cons ..

section

variable {mark : Char} (hmark : mark.toNat < 0x80)
include hmark

theorem mark_mem_encodeChar {c : Char} :
    UInt8.ofNat mark.toNat ∈ String.utf8EncodeChar c ↔ c = mark := by
  have hb : (UInt8.ofNat mark.toNat).toNat = mark.toNat := toNat_ofNat_of_lt (by omega)
  rw [mem_encodeChar (by omega), hb, Char.toNat_inj]

theorem encodeChar_mark : String.utf8EncodeChar mark = [UInt8.ofNat mark.toNat] := by
  unfold String.utf8EncodeChar
  exact if_pos (Nat.le_of_lt_succ hmark)

theorem split_encode (cs : List Char) :
    Line.split (UInt8.ofNat mark.toNat) (encode cs) = (Line.split mark cs).map encode := by
  induction cs with
  | nil => rfl
  | cons c cs ih =>
    rw [encode_cons, Line.split_cons]
    by_cases hc : c = mark
    · rw [hc, encodeChar_mark hmark, List.singleton_append, Line.split_cons,
        Line.extend_separator, Line.extend_separator, List.map_cons, ih]
      rfl
    · -- the byte of the mark occurs in no other character
      have hnotMem : UInt8.ofNat mark.toNat ∉ String.utf8EncodeChar c :=
        fun hmem => hc ((mark_mem_encodeChar hmark).mp hmem)
      obtain ⟨piece, rest, hpieces⟩ := List.exists_cons_of_ne_nil (Line.split_ne_nil mark cs)
      rw [hpieces, List.map_cons] at ih
      rw [Line.split, List.foldr_append, ← Line.split, ih, Line.foldr_extend hnotMem, hpieces,
        Line.extend, if_neg hc, List.map_cons, encode_cons]

theorem dropFinal_encode (cs : List Char) :
    Line.dropFinal (UInt8.ofNat mark.toNat) (encode cs) = encode (Line.dropFinal mark cs) := by
  rcases List.eq_nil_or_concat cs with rfl | ⟨front, c, rfl⟩
  · rfl
  have hlast : encode (front ++ [c]) = encode front ++ String.utf8EncodeChar c := by
    rw [encode_append, encode, encode, List.flatMap_singleton]
  rw [List.concat_eq_append, Line.dropFinal_concat, hlast]
  by_cases hc : c = mark
  · rw [if_pos hc, hc, encodeChar_mark hmark, Line.dropFinal_concat, if_pos rfl]
  · -- the last byte is one of another character
    obtain ⟨bytes, b, hbytes⟩ : ∃ bytes b, String.utf8EncodeChar c = bytes ++ [b] := by
      rcases List.eq_nil_or_concat (String.utf8EncodeChar c) with hnil | ⟨bytes, b, hbytes⟩
      · have hlength := String.length_utf8EncodeChar c
        rw [hnil] at hlength
        exact absurd hlength.symm c.utf8Size_pos.ne'
      · exact ⟨bytes, b, by rw [hbytes, List.concat_eq_append]⟩
    have hb : b ≠ UInt8.ofNat mark.toNat := by
      rintro rfl
      exact hc ((mark_mem_encodeChar hmark).mp (by rw [hbytes]; simp))
    rw [if_neg hc, hlast, hbytes, ← List.append_assoc, Line.dropFinal_concat, if_neg hb]

end

theorem lines_encode (text : List Char) :
    Line.lines 0x0a 0x0d (encode text) = (Line.lines '\n' '\r' text).map encode := by
  have hfeed : Line.split 0x0a (encode text) = (Line.split '\n' text).map encode :=
    split_encode (show '\n'.toNat < 0x80 by decide) text
  have hret : ∀ cs, Line.dropFinal 0x0d (encode cs) = encode (Line.dropFinal '\r' cs) :=
    dropFinal_encode (show '\r'.toNat < 0x80 by decide)
  have hempty : encode [] = [] := rfl
  unfold Line.lines
  rw [← Line.split_eq_splitOn, ← Line.split_eq_splitOn, hfeed, ← hempty,
    Line.dropFinal_map encode_injective, List.map_map, List.map_map]
  exact List.map_congr_left fun cs _ => hret cs

end Utf8

/-! ## 3. What a scan reports -/

namespace Matchers

variable {m : Matchers}

theorem report_eq_some_iff {line secret : List Char} :
    m.report line = some secret ↔ m.fast.isMatch line = true ∧
      m.strict.find line = some secret ∧ secret ≠ [] ∧ m.exclude.isMatch line = false := by
  unfold report
  cases m.fast.isMatch line with
  | false => simp
  | true =>
    rw [if_pos rfl]
    rcases m.strict.find line with _ | _ | ⟨c, found⟩
    · simp
    · -- an empty match is no secret
      refine ⟨nofun, fun ⟨_, hfind, hne, _⟩ => absurd (Option.some.inj hfind).symm hne⟩
    · cases m.exclude.isMatch line with
      | true => simp
      | false =>
        dsimp only
        rw [if_neg Bool.false_ne_true]
        refine ⟨fun h => ⟨rfl, h, ?_, rfl⟩, fun h => h.2.1⟩
        rw [← Option.some.inj h]
        exact List.cons_ne_nil c found

theorem lineHit_eq_some_iff {n : Nat} {raw : Bytes} {hit : Hit} :
    m.lineHit n raw = some hit ↔ shortLine < raw.length ∧ hit.number = n ∧
      hit.line = Utf8.decodeLossy raw ∧ m.report hit.line = some hit.secret := by
  unfold lineHit
  split
  next hshort => simp [Nat.not_lt.mpr hshort]
  next hlong =>
    obtain ⟨number, line, secret⟩ := hit
    rw [Option.map_eq_some_iff]
    constructor
    · rintro ⟨found, hreport, heq⟩
      cases heq
      exact ⟨Nat.lt_of_not_le hlong, rfl, rfl, hreport⟩
    · rintro ⟨-, rfl, rfl, hreport⟩
      exact ⟨secret, hreport, rfl⟩

theorem mem_scan_iff {content : Bytes} {hit : Hit} :
    hit ∈ m.scan content ↔ ∃ k raw, (Line.lines 0x0a 0x0d content)[k]? = some raw ∧
      m.lineHit (k + 1) raw = some hit := by
  rw [scan_eq, lineHits, List.mem_filterMap, Line.lines_eq]
  constructor
  · rintro ⟨⟨piece, n⟩, hmem, hhit⟩
    obtain ⟨hle, hpiece⟩ := List.mk_mem_zipIdx_iff_le_and_getElem?_sub.mp hmem
    refine ⟨n - 1, _, by rw [List.getElem?_map, hpiece]; rfl, ?_⟩
    rwa [Nat.sub_add_cancel hle]
  · rintro ⟨k, raw, hraw, hhit⟩
    rw [List.getElem?_map, Option.map_eq_some_iff] at hraw
    obtain ⟨piece, hpiece, rfl⟩ := hraw
    refine ⟨(piece, k + 1), ?_, hhit⟩
    exact List.mk_mem_zipIdx_iff_le_and_getElem?_sub.mpr ⟨Nat.le_add_left 1 k, hpiece⟩

theorem lineHit_encode (n : Nat) (line : List Char) :
    m.lineHit n (Utf8.encode line) = (m.check line).map fun secret => ⟨n, line, secret⟩ := by
  rw [lineHit, check, Utf8.length_encode, Utf8.decodeLossy_encode]
  split <;> rfl

/-- The hits in a content are, by increasing numbers, those of its lines that are longer than eight
bytes and that the three stages report, once decoded; all lines count in the numbering, and as many
hits are counted as there are.  If the content is a text, then the hits are those lines of the text,
as they are, that are reported when they are checked alone. -/
theorem scan_reports_lines (m : Matchers) (content : Bytes) :
    (m.scan content).Pairwise (fun a b => a.number < b.number) ∧
    (∀ i line secret, ⟨i, line, secret⟩ ∈ m.scan content ↔
      ∃ k raw, i = k + 1 ∧ (Line.lines 0x0a 0x0d content)[k]? = some raw ∧ 8 < raw.length ∧
        line = Utf8.decodeLossy raw ∧ m.fast.isMatch line = true ∧
        m.strict.find line = some secret ∧ secret ≠ [] ∧ m.exclude.isMatch line = false) ∧
    m.count content = (m.scan content).length ∧
    ∀ text, Utf8.decode content = .ok text →
      ∀ i line secret, ⟨i, line, secret⟩ ∈ m.scan content ↔
        ∃ k, i = k + 1 ∧ (Line.lines '\n' '\r' text)[k]? = some line ∧
          m.check line = some secret := by
  refine ⟨m.pairwise_scan content, fun i line secret => ?_, m.count_eq content,
    fun text htext i line secret => ?_⟩
  · rw [mem_scan_iff]
    refine exists₂_congr fun k raw => ?_
    rw [lineHit_eq_some_iff, report_eq_some_iff]
    constructor
    · rintro ⟨hraw, hlong, hnumber, hreported⟩
      exact ⟨hnumber, hraw, hlong, hreported⟩
    · rintro ⟨hnumber, hraw, hlong, hreported⟩
      exact ⟨hraw, hlong, hnumber, hreported⟩
  · -- the lines of an encoded text are the encoded lines of the text
    obtain rfl := Utf8.decode_eq_ok_iff.mp htext
    rw [mem_scan_iff]
    refine exists_congr fun k => ?_
    rw [Utf8.lines_encode, List.getElem?_map]
    cases (Line.lines '\n' '\r' text)[k]? with
    | none => simp
    | some piece =>
      rw [Option.map_some]
      constructor
      · rintro ⟨raw, hraw, hhit⟩
        obtain rfl := Option.some.inj hraw
        rw [lineHit_encode, Option.map_eq_some_iff] at hhit
        obtain ⟨found, hcheck, heq⟩ := hhit
        cases heq
        exact ⟨rfl, rfl, hcheck⟩
      · rintro ⟨rfl, hpiece, hcheck⟩
        obtain rfl := Option.some.inj hpiece
        exact ⟨_, rfl, by rw [lineHit_encode, hcheck, Option.map_some]⟩

/-- Stages that report the letters `key` in lines without a `#`. -/
def keyStages : Matchers where
  fast := ⟨.fast, some (.leaf (CharSet.single 'k')), 1⟩
  strict := ⟨.strict, some (.seq (.leaf (CharSet.single 'k'))
    (.seq (.leaf (CharSet.single 'e')) (.leaf (CharSet.single 'y')))), 1⟩
  exclude := ⟨.exclude, some (.leaf (CharSet.single '#')), 1⟩

/-- A second carriage return belongs to the line, and the last line needs no end. -/
theorem scan_reports_lines_returns :
    let text := "key=1\r\n\nkey = secret\r\r\n# key = secret\nmy key is here".toList
    let hits := keyStages.scan (Utf8.encode text)
    Utf8.decode (Utf8.encode text) = .ok text ∧ keyStages.count (Utf8.encode text) = hits.length ∧
      ⟨3, "key = secret\r".toList, "key".toList⟩ ∈ hits ∧
      ⟨5, "my key is here".toList, "key".toList⟩ ∈ hits ∧
      ∀ line secret, ⟨1, line, secret⟩ ∉ hits ∧ ⟨4, line, secret⟩ ∉ hits := by
  intro text hits
  have htext : Utf8.decode (Utf8.encode text) = .ok text := Utf8.decode_eq_ok_iff.mpr rfl
  obtain ⟨-, -, hcount, hhits⟩ := scan_reports_lines keyStages (Utf8.encode text)
  have hlines : Line.lines '\n' '\r' text = ["key=1".toList, [], "key = secret\r".toList,
      "# key = secret".toList, "my key is here".toList] := by decide +kernel
  have hmem := hhits text htext
  rw [hlines] at hmem
  refine ⟨htext, hcount, (hmem _ _ _).mpr ⟨2, rfl, rfl, by decide +kernel⟩,
    (hmem _ _ _).mpr ⟨4, rfl, rfl, by decide +kernel⟩, fun line secret => ⟨fun hhit => ?_,
      fun hhit => ?_⟩⟩
  · obtain ⟨k, hk, hline, hcheck⟩ := (hmem _ _ _).mp hhit
    obtain rfl : k = 0 := by omega
    obtain rfl := Option.some.inj hline
    rw [show keyStages.check "key=1".toList = none by decide +kernel] at hcheck
    cases hcheck
  · obtain ⟨k, hk, hline, hcheck⟩ := (hmem _ _ _).mp hhit
    obtain rfl : k = 3 := by omega
    obtain rfl := Option.some.inj hline
    rw [show keyStages.check "# key = secret".toList = none by decide +kernel] at hcheck
    cases hcheck

end Matchers

end SecretScan
