import Mathlib.Data.List.Forall2

/-! # Lines of source files

The lines that a compiler sees, and which of them are comments as a whole. A line ends at a line
feed and, in some languages, at a carriage return. Texts are put together at line ends: the lines
of the whole are those of the parts, and text inside a line joins the lines around it.
-/

namespace ClientGen.Text

variable {returns : Bool} {c : Char} {line xs ys : List Char}

/-- Whether `c` ends a line that `rest` comes behind. If carriage returns end lines, one before a
    line feed leaves that to the line feed. -/
def endsLine (returns : Bool) (c : Char) (rest : List Char) : Bool :=
  c = '\n' || (returns && c = '\r' && rest.head? != some '\n')

/-- The lines of a source file. The last one is not ended, and may be empty. -/
def sourceLines (returns : Bool) : List Char → List (List Char)
  | [] => [[]]
  | c :: rest =>
    if endsLine returns c rest then [] :: sourceLines returns rest
    else (sourceLines returns rest).modifyHead (c :: ·)

theorem sourceLines_ne_nil (returns : Bool) (xs : List Char) : sourceLines returns xs ≠ [] := by
  induction xs with
  | nil => exact List.cons_ne_nil _ _
  | cons c rest ih =>
      rw [sourceLines]
      split
      · exact List.cons_ne_nil _ _
      · simpa using ih

/-- A text without line ends. -/
def Unbroken (cs : List Char) : Prop :=
  ∀ c ∈ cs, c ≠ '\n' ∧ c ≠ '\r'

instance (cs : List Char) : Decidable (Unbroken cs) :=
  List.decidableBAll _ cs

theorem Unbroken.getLast?_ne (h : Unbroken xs) : xs.getLast? ≠ some '\r' :=
  fun last => (h _ (List.mem_of_getLast? last)).2 rfl

theorem endsLine_inner (feed : c ≠ '\n') (carriage : c ≠ '\r') :
    endsLine returns c xs = false := by
  simp [endsLine, feed, carriage]

/-- A text without line ends joins the first line behind it. -/
theorem sourceLines_unbroken_append (h : Unbroken xs) :
    sourceLines returns (xs ++ ys) = (sourceLines returns ys).modifyHead (xs ++ ·) := by
  induction xs with
  | nil => exact (congrFun List.modifyHead_id _).symm
  | cons c rest ih =>
      obtain ⟨inner, others⟩ := List.forall_mem_cons.mp h
      rw [List.cons_append, sourceLines, endsLine_inner inner.1 inner.2, ih others]
      simp [List.modifyHead_modifyHead, Function.comp_def]

theorem sourceLines_unbroken (h : Unbroken xs) : sourceLines returns xs = [xs] := by
  have joined : sourceLines returns (xs ++ []) = _ := sourceLines_unbroken_append h
  simpa [sourceLines] using joined

/-- What comes behind a text matters to its line ends only if a carriage return is last. -/
theorem endsLine_append (last : (c :: xs).getLast? ≠ some '\r' ∨ ys.head? ≠ some '\n') :
    endsLine returns c (xs ++ ys) = endsLine returns c xs := by
  cases xs with
  | cons => rfl
  | nil =>
      rw [List.nil_append, endsLine, endsLine]
      rcases last with last | next
      · have carriage : c ≠ '\r' := fun same => last (same ▸ rfl)
        simp [carriage]
      · have apart : (ys.head? != some '\n') = true := bne_iff_ne.mpr next
        rw [apart]
        rfl

theorem sourceLines_append_feed (last : xs.getLast? ≠ some '\r') :
    sourceLines returns (xs ++ '\n' :: ys) = sourceLines returns xs ++ sourceLines returns ys := by
  induction xs with
  | nil => rfl
  | cons c rest ih =>
      have others : rest.getLast? ≠ some '\r' := by
        cases rest with
        | nil => exact nofun
        | cons => simpa using last
      rw [List.cons_append, sourceLines, sourceLines, endsLine_append (.inl last), ih others]
      split
      · rfl
      · obtain ⟨first, more, found⟩ :=
          List.exists_cons_of_ne_nil (sourceLines_ne_nil returns rest)
        rw [found]
        rfl

theorem sourceLines_append_unbroken (returns : Bool) (xs : List Char) (h : Unbroken ys) :
    List.Forall₂ (fun line whole => whole = line ∨ whole = line ++ ys)
      (sourceLines returns xs) (sourceLines returns (xs ++ ys)) := by
  have next : ys.head? ≠ some '\n' := fun first => (h _ (List.mem_of_head? first)).1 rfl
  induction xs with
  | nil =>
      rw [List.nil_append, sourceLines_unbroken h]
      exact .cons (.inr rfl) .nil
  | cons c rest ih =>
      rw [List.cons_append, sourceLines, sourceLines, endsLine_append (.inr next)]
      split
      · exact .cons (.inl rfl) ih
      · generalize sourceLines returns rest = lines at ih ⊢
        generalize sourceLines returns (rest ++ ys) = wholes at ih ⊢
        cases ih with
        | nil => exact .nil
        | cons first more =>
            refine .cons ?_ more
            rcases first with rfl | rfl
            · exact .inl rfl
            · exact .inr rfl

/-- Texts with a line feed between them have their lines one after another. -/
theorem sourceLines_intercalate {texts : List (List Char)} (nonempty : texts ≠ [])
    (last : ∀ text ∈ texts, text.getLast? ≠ some '\r') :
    sourceLines returns (['\n'].intercalate texts) = texts.flatMap (sourceLines returns) := by
  induction texts with
  | nil => contradiction
  | cons text rest ih =>
      obtain ⟨first, others⟩ := List.forall_mem_cons.mp last
      cases rest with
      | nil => simp
      | cons next rest =>
          rw [List.intercalate_cons_cons, List.append_assoc, List.singleton_append,
            sourceLines_append_feed first, ih (List.cons_ne_nil _ _) others]
          rfl

theorem getLast?_intercalate_ne {texts : List (List Char)}
    (last : ∀ text ∈ texts, text.getLast? ≠ some '\r') :
    (['\n'].intercalate texts).getLast? ≠ some '\r' := by
  induction texts with
  | nil => exact nofun
  | cons text rest ih =>
      obtain ⟨first, others⟩ := List.forall_mem_cons.mp last
      cases rest with
      | nil => simpa using first
      | cons next rest =>
          rw [List.intercalate_cons_cons, List.append_assoc, List.singleton_append,
            List.getLast?_append, List.getLast?_cons]
          cases found : (['\n'].intercalate (next :: rest)).getLast? with
          | none => exact show some '\n' ≠ some '\r' by decide
          | some c =>
              have inner := ih others
              rw [found] at inner
              exact inner

theorem exists_sourceLines_eq_cons (returns : Bool) (h : Unbroken xs) (front : xs <+: ys) :
    ∃ first more, sourceLines returns ys = first :: more ∧ xs <+: first := by
  obtain ⟨rest, rfl⟩ := front
  obtain ⟨first, more, found⟩ :=
    List.exists_cons_of_ne_nil (sourceLines_ne_nil returns rest)
  refine ⟨xs ++ first, more, ?_, List.prefix_append xs first⟩
  rw [sourceLines_unbroken_append h, found, List.modifyHead_cons]

theorem sourceLines_ended (returns : Bool) (carriage : c ≠ '\r') (ended : [c, '\n'] <:+ xs) :
    ∃ above, sourceLines returns xs = above ++ [[]] := by
  obtain ⟨front, rfl⟩ := ended
  have inner : (front ++ [c]).getLast? ≠ some '\r' := by simpa using carriage
  have split : front ++ [c, '\n'] = (front ++ [c]) ++ '\n' :: [] := by simp
  exact ⟨_, split ▸ sourceLines_append_feed inner⟩

/-- A blank that may stand before a comment. -/
def isIndent (c : Char) : Bool :=
  c = ' ' || c = '\t'

/-- Whether a line is a comment: its first characters, blanks apart, are two slashes. -/
def isRemark (line : List Char) : Bool :=
  ['/', '/'].isPrefixOf (line.dropWhile isIndent)

/-- The lines of a source file that are no comments. -/
def codeLines (returns : Bool) (cs : List Char) : List (List Char) :=
  (sourceLines returns cs).filter (!isRemark ·)

theorem codeLines_append_feed (last : xs.getLast? ≠ some '\r') :
    codeLines returns (xs ++ '\n' :: ys) = codeLines returns xs ++ codeLines returns ys := by
  rw [codeLines, sourceLines_append_feed last, List.filter_append]
  rfl

/-- What can stand behind any text in its line and leaves it a comment or code, as it was: a blank
    and then something that is no slash. -/
def isTrailing : List Char → Bool
  | ' ' :: c :: rest => c != '/' && !isIndent c && decide (Unbroken (c :: rest))
  | _ => false

theorem isTrailing_cases (h : isTrailing ys = true) : ∃ c rest, ys = ' ' :: c :: rest ∧
    c ≠ '/' ∧ isIndent c = false ∧ Unbroken (' ' :: c :: rest) := by
  unfold isTrailing at h
  split at h
  · rename_i c rest
    simp only [Bool.and_eq_true, bne_iff_ne, Bool.not_eq_true', decide_eq_true_eq] at h
    obtain ⟨⟨slash, visible⟩, unbroken⟩ := h
    exact ⟨c, rest, rfl, slash, visible, List.forall_mem_cons.mpr ⟨by decide, unbroken⟩⟩
  · cases h

theorem unbroken_of_isTrailing (h : isTrailing ys = true) : Unbroken ys := by
  obtain ⟨c, rest, rfl, -, -, unbroken⟩ := isTrailing_cases h
  exact unbroken

theorem getLast?_append_trailing (h : isTrailing ys = true) :
    (xs ++ ys).getLast? ≠ some '\r' := by
  obtain ⟨c, rest, rfl, -, -, unbroken⟩ := isTrailing_cases h
  simpa using unbroken.getLast?_ne

theorem isRemark_append_trailing (h : isTrailing ys = true) :
    isRemark (line ++ ys) = isRemark line := by
  obtain ⟨c, rest, rfl, slash, visible, -⟩ := isTrailing_cases h
  have other : ('/' == c) = false := beq_false_of_ne slash.symm
  have inner : (' ' :: c :: rest).dropWhile isIndent = c :: rest := by
    rw [List.dropWhile_cons_of_pos (by decide), List.dropWhile_cons_of_neg (by simp [visible])]
  rw [isRemark, isRemark, List.dropWhile_append, inner]
  -- what is left of the line decides, and a single slash is no comment
  match line.dropWhile isIndent with
  | [] => simp [List.isPrefixOf, other]
  | [d] => simp [List.isPrefixOf]
  | d :: d' :: _ => rfl

end ClientGen.Text
