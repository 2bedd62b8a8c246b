import CallScript.Text.Blank
import CallScript.Text.Word
import Mathlib.Data.List.TakeWhile

/-! # Runs of characters

A text is read run by run: the longest run of a class of characters, and what follows it.  `spanOf_eq_iff`
says what that cut is by the characters alone, so that no reader has to be opened at `takeWhile`; the same
for the blanks around a text.

* `spanOf_eq_iff`, `spanOf_append_cons`: where a run ends.
* `trimStart_append`, `exists_gap`: the blanks that a text starts with.
* `exists_gaps`, `trim_blank_append`, `trim_append_blank`: the blanks around a text.
* `trim_eq_self`: a text without blanks at its ends.
* `not_isBlank_of_isWord`, `not_isBlank_of_isDigit`: neither word characters nor digits are blanks. -/

namespace CallScript.Text

variable {p : Char → Bool} {s w rest gap : List Char}

/-- The longest run at the head of a text is the part of the class that something else follows, or
nothing. -/
theorem spanOf_eq_iff : spanOf p s = (w, rest) ↔
    s = w ++ rest ∧ (∀ c ∈ w, p c = true) ∧ ∀ c ∈ rest.head?, p c = false := by
  constructor
  · intro cut
    obtain ⟨rfl, rfl⟩ := Prod.mk.inj cut
    refine ⟨List.takeWhile_append_dropWhile.symm, fun c member => List.mem_takeWhile_imp member, ?_⟩
    intro c head
    have stop := List.head?_dropWhile_not p s
    rw [Option.mem_def.mp head] at stop
    exact stop
  · rintro ⟨rfl, inside, stop⟩
    have nothing : rest.takeWhile p = [] ∧ rest.dropWhile p = rest := by
      cases rest with
      | nil => exact ⟨rfl, rfl⟩
      | cons c rest =>
          have outside : p c = false := stop c rfl
          simp [outside]
    unfold spanOf
    rw [List.takeWhile_append_of_pos inside, List.dropWhile_append_of_pos inside, nothing.1, nothing.2,
      List.append_nil]

/-- A run ends where a character of another class follows. -/
theorem spanOf_append_cons {c : Char} (inside : ∀ c ∈ w, p c = true) (stop : p c = false)
    (rest : List Char) : spanOf p (w ++ c :: rest) = (w, c :: rest) := by
  refine spanOf_eq_iff.mpr ⟨rfl, inside, ?_⟩
  intro d head
  cases head
  exact stop

theorem spanOf_cons {c : Char} (stop : p c = false) (rest : List Char) :
    spanOf p (c :: rest) = ([], c :: rest) := by
  have nothing : ∀ c ∈ ([] : List Char), p c = true := fun _ => nofun
  exact spanOf_append_cons nothing stop rest

theorem skipSpacing_cons {c : Char} (no_space : isSpacing c = false) (rest : List Char) :
    skipSpacing (c :: rest) = c :: rest := (Prod.mk.inj (spanOf_cons no_space rest)).2

/-- Blanks in front of another character, or in front of nothing, are dropped. -/
theorem trimStart_append (blank : ∀ c ∈ gap, isBlank c = true) (stop : ∀ c ∈ rest.head?, isBlank c = false) :
    trimStart (gap ++ rest) = rest :=
  (Prod.mk.inj (spanOf_eq_iff.mpr ⟨rfl, blank, stop⟩)).2

/-- What is dropped at the head of a text are blanks. -/
theorem exists_gap (s : List Char) : ∃ gap, s = gap ++ trimStart s ∧ ∀ c ∈ gap, isBlank c = true :=
  ⟨s.takeWhile isBlank, List.takeWhile_append_dropWhile.symm,
    fun _ member => List.mem_takeWhile_imp member⟩

@[simp] theorem trimStart_trimStart_append (s t : List Char) :
    trimStart (trimStart s ++ t) = trimStart (s ++ t) := by
  obtain ⟨gap, s_eq, blank⟩ := exists_gap s
  have dropped : trimStart (gap ++ (trimStart s ++ t)) = trimStart (trimStart s ++ t) :=
    List.dropWhile_append_of_pos blank
  rw [← dropped, ← List.append_assoc, ← s_eq]

@[simp] theorem trim_trimStart (s : List Char) : trim (trimStart s) = trim s := by
  have same := trimStart_trimStart_append s []
  rw [List.append_nil, List.append_nil] at same
  exact congrArg trimEnd same

/-- Blanks in front of a text are dropped. -/
theorem trim_blank_append (blank : ∀ c ∈ gap, isBlank c = true) (s : List Char) : trim (gap ++ s) = trim s :=
  congrArg trimEnd (List.dropWhile_append_of_pos blank)

theorem trimEnd_append_blank (blank : ∀ c ∈ gap, isBlank c = true) (s : List Char) :
    trimEnd (s ++ gap) = trimEnd s := by
  have reversed : ∀ c ∈ gap.reverse, isBlank c = true := fun c member => blank c (List.mem_reverse.mp member)
  rw [trimEnd, List.reverse_append, List.dropWhile_append_of_pos reversed]
  rfl

/-- Blanks behind a text are dropped. -/
theorem trim_append_blank (blank : ∀ c ∈ gap, isBlank c = true) (s : List Char) : trim (s ++ gap) = trim s := by
  unfold trim
  by_cases nothing : trimStart s = []
  · have all_blank : trimStart (s ++ gap) = [] := by
      rw [← trimStart_trimStart_append, nothing]
      exact List.dropWhile_eq_nil_iff.mpr blank
    rw [all_blank, nothing]
  · have kept : trimStart (s ++ gap) = trimStart s ++ gap := by
      have not_empty : ¬ (s.dropWhile isBlank).isEmpty = true := fun empty => nothing (List.isEmpty_iff.mp empty)
      rw [trimStart, List.dropWhile_append, if_neg not_empty]
      rfl
    rw [kept, trimEnd_append_blank blank]

@[simp] theorem trim_trimEnd (s : List Char) : trim (trimEnd s) = trim s := by
  obtain ⟨gap, reversed_eq, blank⟩ := exists_gap s.reverse
  have s_eq : s = trimEnd s ++ gap.reverse := by
    refine (List.reverse_eq_iff.mp reversed_eq).trans ?_
    rw [List.reverse_append]
    rfl
  have dropped := trim_append_blank (fun c member => blank c (List.mem_reverse.mp member)) (trimEnd s)
  rw [← dropped, ← s_eq]

/-- The blanks on either side of another character are dropped up to it at most. -/
theorem trim_append_cons {c : Char} (stop : isBlank c = false) (s t : List Char) :
    trim (s ++ c :: t) = trimStart s ++ c :: trimEnd t := by
  have kept (s t : List Char) : (s ++ c :: t).dropWhile isBlank = s.dropWhile isBlank ++ c :: t := by
    rw [List.dropWhile_append]
    split
    next empty => simp [List.isEmpty_iff.mp empty, stop]
    · rfl
  have reversed : (trimStart s ++ c :: t).reverse = t.reverse ++ c :: (trimStart s).reverse := by simp
  rw [trim, trimStart, kept, ← trimStart, trimEnd, reversed, kept]
  simp [trimEnd]

/-- What is dropped at the ends of a text are blanks. -/
theorem exists_gaps (s : List Char) : ∃ gap gap', s = gap ++ (trim s ++ gap') ∧
    (∀ c ∈ gap, isBlank c = true) ∧ ∀ c ∈ gap', isBlank c = true := by
  obtain ⟨gap, start_eq, blank⟩ := exists_gap s
  obtain ⟨gap', reversed_eq, blank'⟩ := exists_gap (trimStart s).reverse
  have end_eq : trimStart s = trim s ++ gap'.reverse := by
    rw [trim, trimEnd]
    refine (List.reverse_eq_iff.mp reversed_eq).trans ?_
    rw [List.reverse_append]
    rfl
  refine ⟨gap, gap'.reverse, ?_, blank, fun c member => blank' c (List.mem_reverse.mp member)⟩
  rw [← end_eq, ← start_eq]

@[simp] theorem trim_trim (s : List Char) : trim (trim s) = trim s := by
  obtain ⟨gap, gap', s_eq, blank, blank'⟩ := exists_gaps s
  have same : trim (gap ++ (trim s ++ gap')) = trim (trim s) := by
    rw [trim_blank_append blank, trim_append_blank blank']
  rw [← same, ← s_eq]

theorem trim_infix (s : List Char) : trim s <:+: s := by
  obtain ⟨gap, gap', s_eq, -, -⟩ := exists_gaps s
  exact ⟨gap, gap', by rw [List.append_assoc, ← s_eq]⟩

theorem not_isBlank_getLast?_trim (s : List Char) : ∀ c ∈ (trim s).getLast?, isBlank c = false := by
  intro c last
  rw [trim, trimEnd, List.getLast?_reverse] at last
  have outside := List.head?_dropWhile_not isBlank (trimStart s).reverse
  rw [Option.mem_def.mp last] at outside
  exact outside

/-- A text that neither starts nor ends with a blank stays as it is. -/
theorem trim_eq_self (first : ∀ c ∈ s.head?, isBlank c = false)
    (last : ∀ c ∈ s.getLast?, isBlank c = false) : trim s = s := by
  have kept_start : trimStart ([] ++ s) = s := trimStart_append nofun first
  have kept_end : trimStart s.reverse = s.reverse := by
    have stop : ∀ c ∈ s.reverse.head?, isBlank c = false := by
      rw [List.head?_reverse]
      exact last
    have kept : trimStart ([] ++ s.reverse) = s.reverse := trimStart_append nofun stop
    exact kept
  rw [List.nil_append] at kept_start
  unfold trimStart at kept_end
  rw [trim, kept_start, trimEnd, kept_end, List.reverse_reverse]

theorem last_not_blank {close : Char} (not_blank : isBlank close = false) (s : List Char) :
    ∀ c ∈ (s ++ [close]).getLast?, isBlank c = false := by
  intro c last
  rw [List.getLast?_append] at last
  cases last
  exact not_blank

/-- The code points of the blanks. -/
def blankPoints : List Nat :=
  [0x9, 0xA, 0xB, 0xC, 0xD, 0x20, 0x85, 0xA0, 0x1680, 0x2000, 0x2001, 0x2002, 0x2003, 0x2004, 0x2005,
    0x2006, 0x2007, 0x2008, 0x2009, 0x200A, 0x2028, 0x2029, 0x202F, 0x205F, 0x3000]

theorem mem_blankPoints {c : Char} (h : isBlank c = true) : c.toNat ∈ blankPoints := by
  obtain ⟨range, member, low, high⟩ := CodeRanges.has_iff.mp h
  simp only [blanks, List.mem_cons, List.not_mem_nil, or_false] at member
  simp only [blankPoints, List.mem_cons, List.not_mem_nil, or_false]
  rcases member with rfl | rfl | rfl | rfl | rfl | rfl | rfl | rfl | rfl | rfl
  all_goals
    simp only at low high
    omega

theorem not_isWord_blankPoints : ∀ n ∈ blankPoints, isWord (Char.ofNat n) = false := by decide +kernel

theorem not_isBlank_of_isWord {c : Char} (h : isWord c = true) : isBlank c = false := by
  apply Bool.eq_false_iff.mpr
  intro blank
  have no_word := not_isWord_blankPoints c.toNat (mem_blankPoints blank)
  rw [Char.ofNat_toNat, h] at no_word
  cases no_word

theorem not_isBlank_of_isDigit {c : Char} (h : isDigit c = true) : isBlank c = false := by
  apply not_isBlank_of_isWord
  have bounds : '0' ≤ c ∧ c ≤ '9' := by simpa [isDigit] using h
  have ascii : c.toNat < 128 := Nat.lt_of_le_of_lt bounds.2 (by decide)
  rw [isWord, if_pos ascii]
  simp [isAsciiAlphanumeric, bounds]

end CallScript.Text
