import SecretScan.Proofs.Pattern.Lines
import SecretScan.Proofs.Scan.Appended
import SecretScan.Proofs.Scan.Lines

/-!
# Longer lists of patterns

A longer fast stage takes no hit away and a longer exclude stage adds none, whatever is scanned
(`Matchers.scan_monotone`).
-/

namespace SecretScan

namespace Matchers

variable {fast strict exclude : List (List Char)} {m m' : Matchers}

/-- A scan finds no less if more is reported of each line. -/
theorem scan_sublist (h : ∀ line secret, m.report line = some secret →
    m'.report line = some secret) (content : Bytes) :
    (m.scan content).Sublist (m'.scan content) := by
  have hhit : ∀ n raw hit, m.lineHit n raw = some hit → m'.lineHit n raw = some hit := by
    intro n raw hit hsome
    obtain ⟨hlong, hnumber, hline, hreport⟩ := lineHit_eq_some_iff.mp hsome
    exact lineHit_eq_some_iff.mpr ⟨hlong, hnumber, hline, h _ _ hreport⟩
  rw [scan_eq, scan_eq]
  -- the numbers go on from line to line, so the first one is arbitrary
  generalize Line.terminated 0x0a content = lines
  generalize 1 = n
  induction lines generalizing n with
  | nil => exact List.Sublist.refl []
  | cons line lines ih =>
    rw [lineHits_cons, lineHits_cons]
    refine List.Sublist.append ?_ (ih (n + 1))
    cases hline : m.lineHit n (Line.dropFinal 0x0d line) with
    | none => exact List.nil_sublist _
    | some hit => rw [hhit _ _ _ hline]

theorem ofLines_padded {fast' strict' exclude' : List (List Char)}
    (hfast : Pattern.Padded fast fast') (hstrict : Pattern.Padded strict strict')
    (hexclude : Pattern.Padded exclude exclude') :
    ofLines fast' strict' exclude' = ofLines fast strict exclude := by
  unfold ofLines
  rw [Matcher.ofLines_padded _ hfast, Matcher.ofLines_padded _ hstrict,
    Matcher.ofLines_padded _ hexclude]

/-- Whatever is scanned, more fast patterns take no hit away and more exclude patterns add none; the
hits that stay are the same, and in the same order.  Comments and empty lines between the lines of
any stage change nothing. -/
theorem scan_monotone {more : List (List Char)} (hfast : Pattern.AllValid (fast ++ more))
    (hexclude : Pattern.AllValid (exclude ++ more)) (hm : ofLines fast strict exclude = .ok m) :
    (∀ m', ofLines (fast ++ more) strict exclude = .ok m' →
      ∀ content, (m.scan content).Sublist (m'.scan content)) ∧
    (∀ m', ofLines fast strict (exclude ++ more) = .ok m' →
      ∀ content, (m'.scan content).Sublist (m.scan content)) ∧
    ∀ {fast strict exclude fast' strict' exclude'}, Pattern.Padded fast fast' →
      Pattern.Padded strict strict' → Pattern.Padded exclude exclude' →
        ofLines fast' strict' exclude' = ofLines fast strict exclude := by
  obtain ⟨hmfast, hmstrict, hmexclude⟩ := of_ofLines hm
  refine ⟨fun m' hm' => scan_sublist fun line secret hreport => ?_,
    fun m' hm' => scan_sublist fun line secret hreport => ?_, ofLines_padded⟩
  · -- only the fast stage is another one
    obtain ⟨hmfast', hmstrict', hmexclude'⟩ := of_ofLines hm'
    have hsameStrict : m'.strict = m.strict := Except.ok.inj (hmstrict'.symm.trans hmstrict)
    have hsameExclude : m'.exclude = m.exclude := Except.ok.inj (hmexclude'.symm.trans hmexclude)
    obtain ⟨hadmits, hreport⟩ := report_eq_some_iff.mp hreport
    rw [report_eq_some_iff, hsameStrict, hsameExclude]
    exact ⟨Matcher.isMatch_append hfast hmfast hmfast' hadmits, hreport⟩
  · -- only the exclude stage is another one
    obtain ⟨hmfast', hmstrict', hmexclude'⟩ := of_ofLines hm'
    have hsameFast : m'.fast = m.fast := Except.ok.inj (hmfast'.symm.trans hmfast)
    have hsameStrict : m'.strict = m.strict := Except.ok.inj (hmstrict'.symm.trans hmstrict)
    rw [report_eq_some_iff, hsameFast, hsameStrict] at hreport
    obtain ⟨hadmits, hfind, hne, hkeeps⟩ := hreport
    refine report_eq_some_iff.mpr ⟨hadmits, hfind, hne, Bool.eq_false_iff.mpr fun hdiscards => ?_⟩
    rw [Matcher.isMatch_append hexclude hmexclude hmexclude' hdiscards] at hkeeps
    cases hkeeps

/-- Three lines: the first has a token only, the second a key, the third both. -/
def keyLines : List Char := "token=12345\na KEY: key=12345\nkey token=12345\n".toList

/-- With a pattern for keys, the fast stage also admits the second line, and the exclude stage
discards the third. -/
theorem scan_monotone_keys : ∃ m wider narrower,
    ofLines ["token".toList] ["[a-z]+=[0-9]+".toList] [] = .ok m ∧
    ofLines ["token".toList, "(?i)key".toList] ["[a-z]+=[0-9]+".toList] [] = .ok wider ∧
    ofLines ["token".toList] ["[a-z]+=[0-9]+".toList] ["(?i)key".toList] =
      .ok narrower ∧
    (m.scan (Utf8.encode keyLines)).map Hit.number = [1, 3] ∧
    (wider.scan (Utf8.encode keyLines)).map Hit.number = [1, 2, 3] ∧
    (narrower.scan (Utf8.encode keyLines)).map Hit.number = [1] ∧
    (m.scan (Utf8.encode keyLines)).Sublist (wider.scan (Utf8.encode keyLines)) ∧
    (narrower.scan (Utf8.encode keyLines)).Sublist (m.scan (Utf8.encode keyLines)) ∧
    ofLines [[], "token".toList, "# tokens".toList] ["[a-z]+=[0-9]+".toList] [] =
      .ok m := by
  obtain ⟨m, hm, hscan⟩ := exists_ok_of_any
    (x := ofLines ["token".toList] ["[a-z]+=[0-9]+".toList] [])
    (p := fun m => (m.scan (Utf8.encode keyLines)).map Hit.number == [1, 3]) (by decide +kernel)
  obtain ⟨wider, hwider, hscanWider⟩ := exists_ok_of_any
    (x := ofLines ["token".toList, "(?i)key".toList] ["[a-z]+=[0-9]+".toList] [])
    (p := fun m => (m.scan (Utf8.encode keyLines)).map Hit.number == [1, 2, 3]) (by decide +kernel)
  obtain ⟨narrower, hnarrower, hscanNarrower⟩ := exists_ok_of_any
    (x := ofLines ["token".toList] ["[a-z]+=[0-9]+".toList] ["(?i)key".toList])
    (p := fun m => (m.scan (Utf8.encode keyLines)).map Hit.number == [1]) (by decide +kernel)
  -- the patterns for keys are valid on their own, which is all that is asked of them
  have hfast : Pattern.AllValid (["token".toList] ++ ["(?i)key".toList]) :=
    List.forall_mem_cons.mpr ⟨fun _ => ⟨by decide, _, rfl⟩,
      List.forall_mem_singleton.mpr fun _ => ⟨by decide, _, rfl⟩⟩
  have hexclude : Pattern.AllValid ([] ++ ["(?i)key".toList]) :=
    List.forall_mem_singleton.mpr fun _ => ⟨by decide, _, rfl⟩
  obtain ⟨hmore, hless, hpadded⟩ := scan_monotone hfast hexclude hm
  exact ⟨m, wider, narrower, hm, hwider, hnarrower, eq_of_beq hscan, eq_of_beq hscanWider,
    eq_of_beq hscanNarrower, hmore wider hwider _, hless narrower hnarrower _,
    (hpadded (.empty (.line _ (.comment _ .nil))) (.refl _) .nil).trans hm⟩

end Matchers

end SecretScan
