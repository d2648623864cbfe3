import Succession.PidFile.Lock

/-!
# Reading a record back

A process records its number as a line, and whoever reads the file trims it and reads the number.

* `trim_line`                a line of digits is its digits;
* `recordedPid_pidRecord`    the number comes back.
-/

namespace Succession

theorem isBlank_of_isDigit {c : Char} (h : Numeral.isDigit c = true) :
    Blank.isBlank c = false := by
  unfold Numeral.isDigit at h
  rw [Bool.and_eq_true, decide_eq_true_iff, decide_eq_true_iff] at h
  have hlow : 48 ≤ c.toNat := h.1
  have hhigh : c.toNat ≤ 57 := h.2
  unfold Blank.isBlank
  simp only [Bool.or_eq_false_iff, Bool.and_eq_false_iff, decide_eq_false_iff_not]
  omega

/-- nothing is trimmed from the start of a text that begins without a blank -/
theorem dropWhile_blank {cs : List Char} (h : ∀ c ∈ cs, Blank.isBlank c = false) (more : List Char)
    (hne : cs ≠ []) : (cs ++ more).dropWhile Blank.isBlank = cs ++ more := by
  obtain ⟨c, rest, rfl⟩ := List.exists_cons_of_ne_nil hne
  rw [List.cons_append, List.dropWhile_cons_of_neg]
  rw [h c List.mem_cons_self]
  exact Bool.false_ne_true

theorem trim_line {cs : List Char} (h : ∀ c ∈ cs, Blank.isBlank c = false) (hne : cs ≠ []) :
    Blank.trim (cs ++ ['\n']) = cs := by
  have hback : (cs.reverse ++ []).dropWhile Blank.isBlank = cs.reverse ++ [] :=
    dropWhile_blank (fun c hc => h c (List.mem_reverse.mp hc)) []
      (fun he => hne (List.reverse_eq_nil_iff.mp he))
  unfold Blank.trim Blank.trimStart Blank.trimEnd
  rw [dropWhile_blank h _ hne, List.reverse_append]
  show ((('\n' :: cs.reverse).dropWhile Blank.isBlank)).reverse = cs
  rw [List.dropWhile_cons_of_pos (by decide)]
  rw [List.append_nil] at hback
  rw [hback, List.reverse_reverse]

/-- **The record of a process is read back as its number.** -/
theorem recordedPid_pidRecord {pid : Nat} (h : pid ≤ Numeral.max32) :
    recordedPid (pidRecord pid) = pid := by
  let digits := String.ofList (Numeral.render pid)
  have htext : pidRecord pid = Bytes.ofText (digits ++ "\n") := by
    rw [Bytes.ofText_append]
    rfl
  have htrim : Blank.trim (digits ++ "\n").toList = Numeral.render pid := by
    rw [String.toList_append, String.toList_ofList]
    exact trim_line (fun c hc => isBlank_of_isDigit (Numeral.isDigit_of_mem_render hc))
      (Numeral.render_ne_nil pid)
  unfold recordedPid
  rw [htext, Bytes.text?_ofText]
  show (Numeral.parse? Numeral.max32 (Blank.trim (digits ++ "\n").toList)).getD 0 = pid
  rw [htrim, Numeral.parse?_render h]
  rfl

end Succession
