import ClientGen.Template.Reader
import ClientGen.Text.Lines

/-! # Reading templates

A template that is given by its lines is read from their characters, so what it says is a
matter of computation. A template without delimiters says itself.
-/

namespace ClientGen.Template

/-- The characters of a text that is given by its lines. -/
inductive Spelled : List String → List Char → Prop where
  | nil : Spelled [] []
  | cons {rest : List String} {cs : List Char} (line : List Char) :
    Spelled rest cs → Spelled (String.ofList line :: rest) (line ++ '\n' :: cs)

variable {lines : List String} {cs : List Char}

namespace Spelled

theorem toList_eq (h : Spelled lines cs) : (Text.ofLines lines).toList = cs := by
  induction h with
  | nil => rfl
  | cons line _ ih =>
      simp only [Text.ofLines, String.toList_join] at ih ⊢
      simp [ih]

theorem ofList_eq (h : Spelled lines cs) : String.ofList cs = Text.ofLines lines := by
  rw [← h.toList_eq, String.ofList_toList]

theorem scan_eq (h : Spelled lines cs) :
    Token.scan (Text.ofLines lines) = Lexer.run (cs.length + 1) (.start cs) := by
  rw [Token.scan, ← String.length_toList, h.toList_eq]

end Spelled

/-- A template with the statements that it reads as, whatever name it is read under. -/
structure Readable (source : String) where
  stmts : List Stmt
  read (name : String) : Stmt.readAll name source = .ok stmts

/-- The statements that characters spell, if they spell any. -/
def readChars (cs : List Char) : Option (List Stmt) :=
  let tokens := Lexer.run (cs.length + 1) (.start cs)
  match Reading.readStmts (tokens.length + 1) [] ⟨tokens, 1, 1⟩ with
  | .ok (stmts, _) => some stmts
  | .error _ => none

theorem readAll_ofLines {name : String} {stmts : List Stmt} (spelled : Spelled lines cs)
    (read : readChars cs = some stmts) : Stmt.readAll name (Text.ofLines lines) = .ok stmts := by
  rw [readChars] at read
  rw [Stmt.readAll, spelled.scan_eq]
  generalize Reading.readStmts _ _ _ = result at read ⊢
  cases result with
  | ok found =>
      cases read
      rfl
  | error => cases read

deriving instance DecidableEq for Token

deriving instance DecidableEq for Placed

namespace Lexer

theorem run_plain (state : State) (plain : findOpening state.rest = (state.rest, none))
    (nonempty : state.rest ≠ []) (copies : state.mode = .text)
    (keeps : state.skipBlanks = false) (fuel : Nat) :
    run (fuel + 1) state = [⟨.text (String.ofList state.rest), state.line⟩] := by
  simp [run, step, textStep, copies, keeps, plain, nonempty]

/-- The tokens of the next steps, and the state after them. -/
def steps : Nat → State → List Placed × State
  | 0, state => ([], state)
  | count + 1, state =>
    if state.rest.isEmpty then ([], state)
    else
      match step state with
      | (tokens, some next) => (tokens ++ (steps count next).1, (steps count next).2)
      | (tokens, none) => (tokens, { state with rest := [] })

theorem run_of_isEmpty {state : State} (finished : state.rest.isEmpty) (fuel : Nat) :
    run fuel state = [] := by
  cases fuel with
  | zero => rfl
  | succ fuel => rw [run, if_pos finished]

/-- A run goes on from where some of its steps have led. -/
theorem run_add (count fuel : Nat) (state : State) :
    run (count + fuel) state = (steps count state).1 ++ run fuel (steps count state).2 := by
  induction count generalizing state with
  | zero => simp [steps]
  | succ count ih =>
      rw [Nat.add_right_comm, run, steps]
      by_cases finished : state.rest.isEmpty
      · simp [finished, run_of_isEmpty finished]
      · rw [if_neg finished, if_neg finished]
        cases step state with
        | mk tokens next =>
            cases next with
            | none => simp [run_of_isEmpty]
            | some next => simp [ih]

end Lexer

theorem readAll_plain {name : String} (spelled : Spelled lines cs)
    (plain : Lexer.findOpening cs = (cs, none)) (nonempty : cs ≠ []) :
    Stmt.readAll name (Text.ofLines lines) = .ok [.text (Text.ofLines lines)] := by
  have scanned : Token.scan (Text.ofLines lines) = [⟨.text (Text.ofLines lines), 1⟩] := by
    have token := Lexer.run_plain (.start cs) plain nonempty rfl rfl cs.length
    rw [spelled.scan_eq, token, ← spelled.ofList_eq]
    rfl
  rw [Stmt.readAll, scanned]
  rfl

/-- Behind the tokens of some steps, characters without delimiters are one more token. -/
theorem Spelled.scan_eq_append (spelled : Spelled lines cs) {count skipped line : Nat}
    {tokens : List Placed}
    (head : (Lexer.steps count (.start cs)).1 = tokens)
    (unread : (Lexer.steps count (.start cs)).2.rest = cs.drop skipped)
    (place : (Lexer.steps count (.start cs)).2.line = line)
    (copies : (Lexer.steps count (.start cs)).2.mode = .text)
    (keeps : (Lexer.steps count (.start cs)).2.skipBlanks = false)
    (plain : Lexer.findOpening (cs.drop skipped) = (cs.drop skipped, none))
    (nonempty : cs.drop skipped ≠ []) (bounded : count ≤ cs.length) :
    Token.scan (Text.ofLines lines)
      = tokens ++ [⟨.text (String.ofList ((Text.ofLines lines).toList.drop skipped)), line⟩] := by
  obtain ⟨fuel, total⟩ := Nat.exists_eq_add_of_le bounded
  have last := Lexer.run_plain _ (by rw [unread, plain]) (by rwa [unread]) copies keeps fuel
  rw [spelled.scan_eq, spelled.toList_eq, total, Nat.add_assoc, Lexer.run_add, last, head, unread,
    place]

end ClientGen.Template
