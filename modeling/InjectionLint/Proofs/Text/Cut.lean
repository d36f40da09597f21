import InjectionLint.Text.Blank
import Mathlib.Data.List.DropRight

/-!
Text taken apart: at a byte offset between two characters, at the line feeds, and at the blanks of its
ends. Each function is described by what it does to a text that is put together from the parts.
-/

set_option autoImplicit false

namespace InjectionLint.Text

/-! ### Byte offsets -/

@[simp] theorem byteLength_append (front back : List Char) :
    byteLength (front ++ back) = byteLength front + byteLength back := by
  induction front with
  | nil => simp [byteLength]
  | cons c rest ih =>
      simp only [List.cons_append, byteLength, ih]
      omega

theorem exists_succ_eq_utf8Size_add (c : Char) (count : Nat) :
    ∃ less, c.utf8Size + count = less + 1 ∧ c.utf8Size ≤ less + 1 ∧
      less + 1 - c.utf8Size = count := by
  have positive : 0 < c.utf8Size := Char.utf8Size_pos c
  exact ⟨c.utf8Size + count - 1, by omega, by omega, by omega⟩

private theorem dropBytes_cons (c : Char) (count : Nat) (rest : List Char) :
    dropBytes (c.utf8Size + count) (c :: rest) = dropBytes count rest := by
  obtain ⟨less, size, fits, remaining⟩ := exists_succ_eq_utf8Size_add c count
  rw [size, dropBytes, if_pos fits, remaining]

private theorem takeBytes_cons (c : Char) (count : Nat) (rest : List Char) :
    takeBytes (c.utf8Size + count) (c :: rest) = (takeBytes count rest).map (c :: ·) := by
  obtain ⟨less, size, fits, remaining⟩ := exists_succ_eq_utf8Size_add c count
  rw [size, takeBytes, if_pos fits, remaining]

theorem dropBytes_byteLength (front back : List Char) :
    dropBytes (byteLength front) (front ++ back) = some back := by
  induction front with
  | nil =>
      change dropBytes 0 back = some back
      rw [dropBytes]
  | cons c rest ih => rw [byteLength, List.cons_append, dropBytes_cons, ih]

theorem takeBytes_byteLength (front back : List Char) :
    takeBytes (byteLength front) (front ++ back) = some front := by
  induction front with
  | nil =>
      change takeBytes 0 back = some []
      rw [takeBytes]
  | cons c rest ih => rw [byteLength, List.cons_append, takeBytes_cons, ih, Option.map_some]

theorem slice?_middle (front middle back : List Char) :
    slice? (front ++ (middle ++ back)) (byteLength front) (byteLength front + byteLength middle) =
      some middle := by
  rw [slice?, if_pos (Nat.le_add_right _ _), dropBytes_byteLength, Option.bind_some,
    Nat.add_sub_cancel_left, takeBytes_byteLength]

/-! ### Lines -/

theorem splitAt_eq_splitOn (mark : Char) (text : List Char) :
    splitAt mark text = text.splitOn mark := by
  induction text with
  | nil => rfl
  | cons c rest ih =>
      rw [splitAt, List.splitOn_cons_eq_if_modifyHead, ih]
      by_cases ends : c = mark
      · rw [if_pos ends, if_pos (beq_iff_eq.mpr ends)]
      · rw [if_neg ends, if_neg (by simpa only [beq_iff_eq] using ends)]
        cases parts : rest.splitOn mark with
        | nil => exact absurd parts (List.splitOn_ne_nil mark rest)
        | cons first others => rfl

theorem length_splitAt (mark : Char) (text : List Char) :
    (splitAt mark text).length = text.count mark + 1 := by
  induction text with
  | nil => rfl
  | cons c rest ih =>
      rw [splitAt_eq_splitOn] at ih
      rw [splitAt_eq_splitOn, List.splitOn_cons_eq_if_modifyHead, List.count_cons]
      by_cases ends : c == mark
      · simp only [ends, if_true, List.length_cons, ih]
      · simp only [ends, Bool.false_eq_true, if_false, List.length_modifyHead, ih, Nat.add_zero]

private theorem head?_splitAt (mark : Char) (text : List Char) :
    (splitAt mark text)[0]? = some (text.takeWhile (· ≠ mark)) := by
  induction text with
  | nil => rfl
  | cons c rest ih =>
      rw [splitAt_eq_splitOn] at ih
      rw [splitAt_eq_splitOn, List.splitOn_cons_eq_if_modifyHead, List.takeWhile_cons]
      by_cases ends : c = mark
      · simp [ends]
      · simp [ends, ih]

theorem mem_of_mem_splitAt {mark c : Char} {text part : List Char}
    (isPart : part ∈ splitAt mark text) (member : c ∈ part) : c ∈ text ∧ c ≠ mark := by
  induction text generalizing part with
  | nil =>
      obtain rfl := List.mem_singleton.mp isPart
      cases member
  | cons d rest ih =>
      have later : c ∈ rest ∧ c ≠ mark → c ∈ d :: rest ∧ c ≠ mark :=
        And.imp_left (List.mem_cons_of_mem d)
      rw [splitAt] at isPart
      split at isPart
      · rcases List.mem_cons.mp isPart with rfl | inRest
        · cases member
        · exact later (ih inRest member)
      · rename_i goesOn
        cases parts : splitAt mark rest with
        | nil =>
            have some := length_splitAt mark rest
            rw [parts] at some
            cases some
        | cons first others =>
            rw [parts] at isPart ih
            rcases List.mem_cons.mp isPart with rfl | inOthers
            · rcases List.mem_cons.mp member with rfl | inFirst
              · exact ⟨List.mem_cons_self, goesOn⟩
              · exact later (ih List.mem_cons_self inFirst)
            · exact later (ih (List.mem_cons_of_mem first inOthers) member)

def lastLine (text : List Char) : List Char :=
  text.rtakeWhile (· ≠ '\n')

def firstLine (text : List Char) : List Char :=
  text.takeWhile (· ≠ '\n')

theorem firstLine_cons {c : Char} (notFeed : c ≠ '\n') (rest : List Char) :
    firstLine (c :: rest) = c :: firstLine rest :=
  List.takeWhile_cons_of_pos (by simpa only [decide_eq_true_eq] using notFeed)

theorem not_mem_lastLine (text : List Char) : '\n' ∉ lastLine text := by
  intro member
  have different := List.mem_rtakeWhile_imp member
  exact of_decide_eq_true different rfl

theorem lastLine_cases (text : List Char) :
    lastLine text = text ∨ ∃ upper, text = upper ++ '\n' :: lastLine text := by
  have joined : text.rdropWhile (· ≠ '\n') ++ lastLine text = text :=
    List.rdropWhile_append_rtakeWhile
  rcases List.eq_nil_or_concat (text.rdropWhile (· ≠ '\n')) with empty | ⟨upper, last, ends⟩
  · left
    rwa [empty, List.nil_append] at joined
  · right
    have stops : ∀ filled, ¬ (text.rdropWhile (· ≠ '\n')).getLast filled ≠ '\n' := by
      intro filled
      simpa only [decide_eq_true_eq] using List.rdropWhile_last_not _ _ filled
    rw [ends] at stops
    have isFeed : last = '\n' := by
      simpa using stops
    refine ⟨upper, ?_⟩
    rw [ends, isFeed, List.concat_eq_append, List.append_assoc] at joined
    exact joined.symm

/-- The line of a text that a cut goes through. -/
theorem line_through_cut (before after : List Char) :
    (splitAt '\n' (before ++ after))[before.count '\n']? =
      some (lastLine before ++ firstLine after) := by
  have goesOn : ∀ line : List Char, '\n' ∉ line →
      (splitAt '\n' (line ++ after))[0]? = some (line ++ firstLine after) := by
    intro line single
    rw [head?_splitAt, List.takeWhile_append_of_pos]
    · rfl
    · intro c member
      exact decide_eq_true fun isFeed => single (isFeed ▸ member)
  have here := goesOn (lastLine before) (not_mem_lastLine before)
  rcases lastLine_cases before with whole | ⟨upper, parts⟩
  · have single := not_mem_lastLine before
    rw [whole] at here single ⊢
    rw [List.count_eq_zero_of_not_mem single, here]
  · -- The lines above are those of `upper`, one more than the line feeds it has.
    have above : before.count '\n' = (splitAt '\n' upper).length := by
      rw [length_splitAt]
      conv_lhs => rw [parts]
      rw [List.count_append, List.count_cons_self,
        List.count_eq_zero_of_not_mem (not_mem_lastLine before)]
    have split : splitAt '\n' (before ++ after) =
        splitAt '\n' upper ++ splitAt '\n' (lastLine before ++ after) := by
      conv_lhs => rw [parts]
      rw [List.append_assoc, List.cons_append, splitAt_eq_splitOn, splitAt_eq_splitOn,
        splitAt_eq_splitOn, List.splitOn_append_cons_self]
    rw [split, above, List.getElem?_append_right (Nat.le_refl _), Nat.sub_self, here]

/-! ### Blanks at the ends -/

variable {c : Char}

theorem trimEnd_cons_of_visible (visible : isBlank c = false) (rest : List Char) :
    trimEnd (c :: rest) = c :: trimEnd rest := by
  rw [trimEnd]
  cases trimEnd rest with
  | nil => simp [visible]
  | cons d kept => rfl

theorem trimEnd_append_cons_of_visible (visible : isBlank c = false) (front rest : List Char) :
    trimEnd (front ++ c :: rest) = front ++ c :: trimEnd rest := by
  induction front with
  | nil => exact trimEnd_cons_of_visible visible rest
  | cons d front ih =>
      rw [List.cons_append, trimEnd, ih]
      cases front <;> rfl

theorem trimEnd_trimEnd (text : List Char) : trimEnd (trimEnd text) = trimEnd text := by
  induction text with
  | nil => rfl
  | cons c rest ih =>
      rw [trimEnd]
      split
      · by_cases blank : isBlank c = true
        · rw [if_pos blank]
          rfl
        · rw [if_neg blank, trimEnd_cons_of_visible (by simpa using blank)]
          rfl
      · rename_i kept
        rw [trimEnd, ih]
        split
        · contradiction
        · rfl

theorem trimEnd_sublist (text : List Char) : (trimEnd text).Sublist text := by
  induction text with
  | nil => exact List.Sublist.refl []
  | cons c rest ih =>
      rw [trimEnd]
      split
      · split
        · exact List.nil_sublist _
        · exact (List.nil_sublist rest).cons_cons c
      · exact ih.cons_cons c

theorem trimStart_append_cons_of_visible (visible : isBlank c = false) (front rest : List Char) :
    trimStart (front ++ c :: rest) = trimStart front ++ c :: rest := by
  unfold trimStart
  rw [List.dropWhile_append]
  split
  · rename_i allBlank
    rw [List.isEmpty_iff.mp allBlank, List.dropWhile_cons_of_neg (by simp [visible])]
    rfl
  · rfl

theorem takeWhile_append_trimStart (text : List Char) :
    text.takeWhile isBlank ++ trimStart text = text :=
  List.takeWhile_append_dropWhile

theorem mem_of_mem_trim {text : List Char} {d : Char} (member : d ∈ trim text) : d ∈ text :=
  (List.dropWhile_sublist _).subset ((trimEnd_sublist _).subset member)

end InjectionLint.Text
