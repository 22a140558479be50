import ClientGen.Proofs.Template.Indentation
import ClientGen.Proofs.Text.Quotes
import ClientGen.Proofs.Text.Replace
import ClientGen.Target.Python

/-! # Docstrings

A text between triple quotes, and how it is read back. Writing it takes three steps: backslashes
are doubled, quotes are escaped by threes, and a quote at the end is escaped. The steps are shown
to be one walk over the text, which the reader follows; indentation can come before or after it.
The last two steps get in each other's way where the text ends in a triple of quotes: its last
quote is escaped twice, which is to say, not at all.
-/

namespace ClientGen.Target.Python

open Template Text

variable {width : Nat} {fresh : Bool} {c : Char} {cs ds rest : List Char}

/-- The value of a docstring and what follows its closing quotes. The opening quotes have been
    read. The first three quotes in a row close it, where a quote behind a backslash does not
    count; the only other escape is that of the backslash. -/
def docstringValue? : List Char → Option (List Char × List Char)
  | '"' :: '"' :: '"' :: rest => some ([], rest)
  | '\\' :: '\\' :: rest => (docstringValue? rest).map (Prod.map ('\\' :: ·) id)
  | '\\' :: '"' :: rest => (docstringValue? rest).map (Prod.map ('"' :: ·) id)
  | '\\' :: _ => none
  | c :: rest => (docstringValue? rest).map (Prod.map (c :: ·) id)
  | [] => none

theorem docstringValue?_cons (other : c ≠ '\\') (noTriple : ¬ ['"', '"', '"'] <+: c :: rest) :
    docstringValue? (c :: rest) = (docstringValue? rest).map (Prod.map (c :: ·) id) := by
  rw [docstringValue?]
  · rintro rest rfl rfl
    exact noTriple (List.prefix_append ['"', '"', '"'] rest)
  · exact fun _ same => absurd same other
  · exact fun _ same => absurd same other
  · exact other

/-- What is written between the quotes for a text that ends in no blank. -/
def body : List Char → List Char
  | [] => []
  | ['"'] => ['\\', '"']
  | ['"', '"', '"'] => ['\\', '"', '\\', '"', '\\', '\\', '"']
  | '"' :: '"' :: '"' :: rest => ['\\', '"', '\\', '"', '\\', '"'] ++ body rest
  | '\\' :: rest => '\\' :: '\\' :: body rest
  | c :: rest => c :: body rest

theorem body_cons (other : c ≠ '\\') (inner : c = '"' → rest ≠ [])
    (noTriple : ¬ ['"', '"', '"'] <+: c :: rest) : body (c :: rest) = c :: body rest := by
  rw [body]
  · exact inner
  · rintro rfl rfl
    exact noTriple (List.prefix_refl _)
  · rintro rest rfl rfl
    exact noTriple (List.prefix_append ['"', '"', '"'] rest)
  · exact other

theorem body_other (other : c ≠ '\\') (noQuote : c ≠ '"') : body (c :: rest) = c :: body rest :=
  body_cons other (fun same => absurd same noQuote) fun found =>
    noQuote (List.cons_prefix_cons.mp found).1.symm

theorem body_triple (more : rest ≠ []) :
    body ('"' :: '"' :: '"' :: rest) = ['\\', '"', '\\', '"', '\\', '"'] ++ body rest := by
  rw [body]
  exact more

/-- A backslash is written twice. -/
def doubled (c : Char) : List Char :=
  if c = '\\' then ['\\', '\\'] else [c]

/-- Backslashes are doubled, and then every three quotes in a row are escaped. -/
def escaped (cs : List Char) : List Char :=
  replaced ['"', '"', '"'] ['\\', '"', '\\', '"', '\\', '"'] (cs.flatMap doubled)

/-- A quote at the end is escaped. -/
def closed (cs : List Char) : List Char :=
  if cs.getLast? = some '"' then cs.dropLast ++ ['\\', '"'] else cs

theorem closed_append (nonempty : ds ≠ []) : closed (cs ++ ds) = cs ++ closed ds := by
  obtain ⟨init, last, rfl⟩ : ∃ init last, ds = init ++ [last] :=
    ⟨ds.dropLast, ds.getLast nonempty, (List.dropLast_concat_getLast nonempty).symm⟩
  unfold closed
  rw [← List.append_assoc, List.getLast?_concat, List.getLast?_concat, List.dropLast_concat,
    List.dropLast_concat]
  split <;> simp

theorem toList_docstring (s : String) :
    (docstring s).toList = closed (escaped (trimEnd s).toList) := by
  have backslashes : (replace (trimEnd s) "\\" "\\\\").toList
      = (trimEnd s).toList.flatMap doubled :=
    (toList_replace (by decide)).trans replaced_singleton
  have quotes : (replace (replace (trimEnd s) "\\" "\\\\") "\"\"\"" "\\\"\\\"\\\"").toList
      = escaped (trimEnd s).toList := by
    rw [toList_replace (by decide), backslashes]
    rfl
  rw [← quotes]
  unfold docstring closed
  dsimp only
  generalize replace (replace (trimEnd s) "\\" "\\\\") "\"\"\"" "\\\"\\\"\\\"" = text
  split
  · rename_i last
    rw [if_pos last, String.toList_append, String.toList_ofList]
    rfl
  · rename_i other
    rw [if_neg other]

theorem escaped_triple : escaped ('"' :: '"' :: '"' :: rest)
    = ['\\', '"', '\\', '"', '\\', '"'] ++ escaped rest :=
  replaced_append (List.cons_ne_nil _ _)

theorem escaped_backslash : escaped ('\\' :: rest) = '\\' :: '\\' :: escaped rest := by
  have apart (cs : List Char) : ¬ ['"', '"', '"'] <+: '\\' :: cs := fun found =>
    absurd (List.cons_prefix_cons.mp found).1 (by decide)
  exact (replaced_cons (apart _)).trans (congrArg ('\\' :: ·) (replaced_cons (apart _)))

theorem flatMap_doubled_keepsQuotes : KeepsQuotes (List.flatMap doubled) := by
  intro cs ds written
  cases cs with
  | nil => cases written
  | cons c rest =>
      rw [List.flatMap_cons, doubled] at written
      split at written
      · cases written
      · cases written
        exact ⟨rest, rfl, rfl⟩

theorem escaped_cons (other : c ≠ '\\') (noTriple : ¬ ['"', '"', '"'] <+: c :: rest) :
    escaped (c :: rest) = c :: escaped rest := by
  rw [escaped, List.flatMap_cons, show doubled c = [c] from if_neg other]
  exact replaced_cons fun found => noTriple (flatMap_doubled_keepsQuotes.of_triple found)

theorem escaped_ne_nil (nonempty : cs ≠ []) : escaped cs ≠ [] := by
  fun_cases body cs with
  | case1 => exact absurd rfl nonempty
  | case2 | case3 => exact List.cons_ne_nil _ _
  | case4 =>
      rw [escaped_triple]
      exact List.cons_ne_nil _ _
  | case5 =>
      rw [escaped_backslash]
      exact List.cons_ne_nil _ _
  | case6 c rest _ _ noTriple other =>
      rw [escaped_cons other (no_triple noTriple)]
      exact List.cons_ne_nil _ _

theorem closed_cons (inner : c = '"' → cs ≠ []) : closed (c :: cs) = c :: closed cs := by
  cases cs with
  | nil =>
      have last : ¬ [c].getLast? = some '"' := fun same => inner (Option.some.inj same) rfl
      exact if_neg last
  | cons d ds =>
      rw [← List.singleton_append]
      exact closed_append (List.cons_ne_nil d ds)

/-- The three steps of writing a docstring are one walk over the text. -/
theorem closed_escaped (cs : List Char) : closed (escaped cs) = body cs := by
  fun_induction body cs with
  | case1 => rfl
  | case2 => rfl
  | case3 => rfl
  | case4 rest more ih => rw [escaped_triple, closed_append (escaped_ne_nil more), ih]
  | case5 rest ih =>
      have noQuote {α : Prop} (same : '\\' = '"') : α := absurd same (by decide)
      rw [escaped_backslash, closed_cons noQuote, closed_cons noQuote, ih]
  | case6 c rest inner _ noTriple other ih =>
      rw [escaped_cons other (no_triple noTriple), closed_cons, ih]
      exact fun quote => escaped_ne_nil (inner quote)

theorem body_ne_nil (nonempty : cs ≠ []) : body cs ≠ [] := by
  fun_cases body cs with
  | case1 => exact absurd rfl nonempty
  | _ => simp

theorem body_keepsQuotes : KeepsQuotes body := by
  intro cs ds written
  fun_cases body cs with
  | case6 c rest inner _ noTriple other =>
      rw [body_cons other inner (no_triple noTriple)] at written
      cases written
      exact ⟨rest, rfl, rfl⟩
  | case4 rest more =>
      rw [body_triple more] at written
      cases written
  | case5 rest =>
      rw [body] at written
      cases written
  | _ => cases written

/-- The quotes behind what is written do not join the quotes in it. -/
theorem quotes_of_body_append (nonempty : cs ≠ []) (found : ['"', '"'] <+: body cs ++ ds) :
    ['"', '"'] <+: cs := by
  obtain ⟨c, written, whole⟩ := List.exists_cons_of_ne_nil (body_ne_nil nonempty)
  rw [whole] at found
  obtain ⟨rfl, others⟩ := List.cons_prefix_cons.mp found
  obtain ⟨rest, rfl, rfl⟩ := body_keepsQuotes _ _ whole
  have more : rest ≠ [] := by
    rintro rfl
    cases whole
  obtain ⟨c, written, inner⟩ := List.exists_cons_of_ne_nil (body_ne_nil more)
  have second : ['"'] <+: body rest ++ ds := others
  rw [inner] at second
  obtain ⟨rfl, -⟩ := List.cons_prefix_cons.mp second
  obtain ⟨tail, rfl, -⟩ := body_keepsQuotes _ _ inner
  exact List.prefix_append ['"', '"'] tail

theorem hang_keepsQuotes : KeepsQuotes (Filters.hang width false) := by
  intro cs ds written
  cases cs with
  | nil => cases written
  | cons c rest =>
      cases written
      exact ⟨rest, rfl, rfl⟩

theorem body_blanks (n : Nat) (cs : List Char) :
    body (List.replicate n ' ' ++ cs) = List.replicate n ' ' ++ body cs := by
  induction n with
  | zero => rfl
  | succ n ih =>
      rw [List.replicate_succ, List.cons_append, body_other (by decide) (by decide), ih]
      rfl

/-- A text can be indented before or after it is escaped. -/
theorem hang_body :
    Filters.hang width fresh (body cs) = body (Filters.hang width fresh cs) := by
  have backslash : '\\' ≠ '\n' := by decide
  have quote : '"' ≠ '\n' := by decide
  fun_induction body cs generalizing fresh with
  | case1 => rfl
  | case2 =>
      rw [Filters.hang_visible quote, body_blanks, Filters.hang_visible backslash]
      rfl
  | case3 =>
      rw [Filters.hang_visible quote, body_blanks, Filters.hang_visible backslash]
      rfl
  | case4 rest more ih =>
      rw [Filters.hang_visible quote, body_blanks, List.cons_append,
        Filters.hang_visible backslash]
      refine congrArg (_ ++ ·) (Eq.trans ?_ (body_triple (Filters.hang_ne_nil more)).symm)
      rw [← ih]
      rfl
  | case5 rest ih =>
      rw [Filters.hang_visible backslash rest, body_blanks, Filters.hang_visible backslash, body,
        ← ih]
      rfl
  | case6 c rest inner _ noTriple other ih =>
      by_cases feed : c = '\n'
      · subst c
        rw [Filters.hang_feed, Filters.hang_feed, body_other (by decide) (by decide), ih]
      · rw [Filters.hang_visible feed, Filters.hang_visible feed, body_blanks, ih, body_cons other]
        · exact fun quote => Filters.hang_ne_nil (inner quote)
        · exact fun found => no_triple noTriple (hang_keepsQuotes.of_triple found)

/-- What is read of a docstring: the text, or, if it ends in triples of quotes, the text with a
    backslash in place of its last quote. -/
def outcome (cs rest : List Char) : List Char × List Char :=
  if EndsInTriples cs then (cs.dropLast ++ ['\\'], '"' :: rest) else (cs, rest)

theorem outcome_append (xs : List Char) (same : EndsInTriples (xs ++ cs) ↔ EndsInTriples cs) :
    Prod.map (xs ++ ·) id (outcome cs rest) = outcome (xs ++ cs) rest := by
  unfold outcome
  by_cases ends : EndsInTriples cs
  · have nonempty : cs ≠ [] := by
      rintro rfl
      exact absurd ends (by decide)
    rw [if_pos ends, if_pos (same.mpr ends), List.dropLast_append_of_ne_nil nonempty,
      List.append_assoc]
    rfl
  · rw [if_neg ends, if_neg (mt same.mp ends)]
    rfl

theorem docstringValue?_body :
    docstringValue? (body cs ++ '"' :: '"' :: '"' :: rest) = some (outcome cs rest) := by
  fun_induction body cs with
  | case1 => rfl
  | case2 => rfl
  | case3 => rfl
  | case4 text more ih =>
      have opened (ds : List Char) :
          docstringValue? ('\\' :: '"' :: '\\' :: '"' :: '\\' :: '"' :: ds)
            = (docstringValue? ds).map (Prod.map (['"', '"', '"'] ++ ·) id) := by
        simp only [docstringValue?, Option.map_map]
        rfl
      refine (opened (body text ++ _)).trans ?_
      rw [ih]
      exact congrArg some (outcome_append _ (endsInTriples_triple more))
  | case5 text ih =>
      rw [List.cons_append, List.cons_append, docstringValue?, ih]
      exact congrArg some (outcome_append ['\\'] (endsInTriples_cons nofun nofun))
  | case6 c text inner _ noTriple other ih =>
      rw [List.cons_append, docstringValue?_cons other, ih]
      · exact congrArg some (outcome_append [c] (endsInTriples_cons inner (no_triple noTriple)))
      · intro found
        obtain ⟨quote, others⟩ := List.cons_prefix_cons.mp found
        have two := quotes_of_body_append (inner quote.symm) others
        exact no_triple noTriple (List.cons_prefix_cons.mpr ⟨quote, two⟩)

theorem endQuotes_blanks (n : Nat) (cs : List Char) :
    endQuotes (List.replicate n ' ' ++ cs) = endQuotes cs := by
  induction n with
  | zero => rfl
  | succ n ih => rw [List.replicate_succ, List.cons_append, endQuotes_of_ne (by decide), ih]

theorem hang_quotes (n : Nat) :
    Filters.hang width false (List.replicate n '"') = List.replicate n '"' := by
  induction n with
  | zero => rfl
  | succ n ih =>
      rw [List.replicate_succ]
      exact congrArg ('"' :: ·) ih

theorem length_le_hang : cs.length ≤ (Filters.hang width fresh cs).length := by
  induction cs generalizing fresh with
  | nil => exact Nat.zero_le _
  | cons c cs ih =>
      have : cs.length ≤ (Filters.hang width (c == '\n') cs).length := ih
      rw [Filters.hang, List.length_append, List.length_cons, List.length_cons]
      omega

/-- Blanks at the fronts of lines do not come between quotes. -/
theorem endQuotes_hang : endQuotes (Filters.hang width fresh cs) = endQuotes cs := by
  induction cs generalizing fresh with
  | nil => rfl
  | cons c cs ih =>
      by_cases feed : c = '\n'
      · subst c
        rw [Filters.hang_feed, endQuotes_of_ne (by decide), endQuotes_of_ne (by decide), ih]
      rw [Filters.hang_visible feed, endQuotes_blanks]
      by_cases all : endQuotes cs = cs.length
      · rw [eq_replicate_of_endQuotes all, hang_quotes]
      · have bound : endQuotes cs ≤ cs.length := endQuotes_le_length
        have longer : cs.length ≤ (Filters.hang width false cs).length := length_le_hang
        rw [endQuotes_cons, endQuotes_cons, ih, if_neg all, if_neg (by omega)]

theorem getLast?_body : (body cs).getLast? = cs.getLast? := by
  fun_induction body cs with
  | case1 => rfl
  | case2 => rfl
  | case3 => rfl
  | case4 rest more ih =>
      obtain ⟨c, tail, rfl⟩ := List.exists_cons_of_ne_nil more
      simp [List.getLast?_cons, ih]
  | case5 rest ih => simp [List.getLast?_cons, ih]
  | case6 c rest _ _ _ _ ih => simp [List.getLast?_cons, ih]

end ClientGen.Target.Python
