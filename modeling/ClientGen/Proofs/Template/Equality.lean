import ClientGen.Template.Tree

/-! # Equality of template trees

Trees nest through lists and pairs, so their equality is decided by comparing nodes side by
side. A comparison that answers yes is an equality, and every tree compares equal to itself.
-/

namespace ClientGen.Template

deriving instance DecidableEq for Literal

mutual

-- Each node answers with its own comparison, so that two nodes meet in as many cases as there
-- are constructors.

/-- Whether two expressions are the same node by node. -/
def Expr.same : Expr → Expr → Bool
  | .literal a => fun | .literal b => a == b | _ => false
  | .name a => fun | .name b => a == b | _ => false
  | .list as => fun | .list bs => sameItems as bs | _ => false
  | .map as => fun | .map bs => sameEntries as bs | _ => false
  | .negate l a => fun | .negate m b => l == m && a.same b | _ => false
  | .not l a => fun | .not m b => l == m && a.same b | _ => false
  | .both l a c => fun | .both m b d => l == m && a.same b && c.same d | _ => false
  | .either l a c => fun | .either m b d => l == m && a.same b && c.same d | _ => false
  | .binary l o a c => fun
    | .binary m p b d => l == m && o == p && a.same b && c.same d
    | _ => false
  | .choice l a c e => fun
    | .choice m b d f => l == m && a.same b && c.same d && sameOption e f
    | _ => false
  | .attribute l a n => fun | .attribute m b k => l == m && a.same b && n == k | _ => false
  | .item l a c => fun | .item m b d => l == m && a.same b && c.same d | _ => false
  | .slice l a c e g => fun
    | .slice m b d f h =>
      l == m && a.same b && sameOption c d && sameOption e f && sameOption g h
    | _ => false
  | .call l n as => fun | .call m k bs => l == m && n == k && sameArgs as bs | _ => false
  | .callMethod l a n as => fun
    | .callMethod m b k bs => l == m && a.same b && n == k && sameArgs as bs
    | _ => false
  | .callValue l a as => fun
    | .callValue m b bs => l == m && a.same b && sameArgs as bs
    | _ => false
  | .filter l a n as => fun
    | .filter m b k bs => l == m && a.same b && n == k && sameArgs as bs
    | _ => false
  | .test l a n as => fun
    | .test m b k bs => l == m && a.same b && n == k && sameArgs as bs
    | _ => false

def sameItems : List Expr → List Expr → Bool
  | [], [] => true
  | a :: as, b :: bs => a.same b && sameItems as bs
  | _, _ => false

def sameEntries : List (Expr × Expr) → List (Expr × Expr) → Bool
  | [], [] => true
  | (a, c) :: as, (b, d) :: bs => a.same b && c.same d && sameEntries as bs
  | _, _ => false

def sameArgs : List (Option String × Expr) → List (Option String × Expr) → Bool
  | [], [] => true
  | (n, a) :: as, (k, b) :: bs => n == k && a.same b && sameArgs as bs
  | _, _ => false

def sameOption : Option Expr → Option Expr → Bool
  | none, none => true
  | some a, some b => a.same b
  | _, _ => false

end

mutual

/-- Expressions that compare equal are equal. -/
theorem Expr.eq_of_same {a b : Expr} (h : a.same b = true) : a = b := by
  cases a with
  | literal | name =>
      simp only [Expr.same] at h
      split at h
      · simpa using h
      · cases h
  | list as =>
      simp only [Expr.same] at h
      split at h
      · rw [eq_of_sameItems h]
      · cases h
  | map as =>
      simp only [Expr.same] at h
      split at h
      · rw [eq_of_sameEntries h]
      · cases h
  | negate l a | not l a =>
      simp only [Expr.same] at h
      split at h
      · simp only [Bool.and_eq_true, beq_iff_eq] at h
        rw [h.1, a.eq_of_same h.2]
      · cases h
  | both l a c | either l a c | item l a c =>
      simp only [Expr.same] at h
      split at h
      · simp only [Bool.and_eq_true, beq_iff_eq] at h
        rw [h.1.1, a.eq_of_same h.1.2, c.eq_of_same h.2]
      · cases h
  | binary l o a c =>
      simp only [Expr.same] at h
      split at h
      · simp only [Bool.and_eq_true, beq_iff_eq] at h
        rw [h.1.1.1, h.1.1.2, a.eq_of_same h.1.2, c.eq_of_same h.2]
      · cases h
  | choice l a c e =>
      simp only [Expr.same] at h
      split at h
      · simp only [Bool.and_eq_true, beq_iff_eq] at h
        rw [h.1.1.1, a.eq_of_same h.1.1.2, c.eq_of_same h.1.2, eq_of_sameOption h.2]
      · cases h
  | «attribute» l a n =>
      simp only [Expr.same] at h
      split at h
      · simp only [Bool.and_eq_true, beq_iff_eq] at h
        rw [h.1.1, a.eq_of_same h.1.2, h.2]
      · cases h
  | slice l a c e g =>
      simp only [Expr.same] at h
      split at h
      · simp only [Bool.and_eq_true, beq_iff_eq] at h
        rw [h.1.1.1.1, a.eq_of_same h.1.1.1.2, eq_of_sameOption h.1.1.2, eq_of_sameOption h.1.2,
          eq_of_sameOption h.2]
      · cases h
  | call l n as =>
      simp only [Expr.same] at h
      split at h
      · simp only [Bool.and_eq_true, beq_iff_eq] at h
        rw [h.1.1, h.1.2, eq_of_sameArgs h.2]
      · cases h
  | callMethod l a n as | filter l a n as | test l a n as =>
      simp only [Expr.same] at h
      split at h
      · simp only [Bool.and_eq_true, beq_iff_eq] at h
        rw [h.1.1.1, a.eq_of_same h.1.1.2, h.1.2, eq_of_sameArgs h.2]
      · cases h
  | callValue l a as =>
      simp only [Expr.same] at h
      split at h
      · simp only [Bool.and_eq_true, beq_iff_eq] at h
        rw [h.1.1, a.eq_of_same h.1.2, eq_of_sameArgs h.2]
      · cases h
termination_by structural a

theorem eq_of_sameItems {as bs : List Expr} (h : sameItems as bs = true) : as = bs := by
  cases as with
  | nil => cases bs with
    | nil => rfl
    | cons => simp [sameItems] at h
  | cons a as => cases bs with
    | nil => simp [sameItems] at h
    | cons b bs =>
      simp only [sameItems, Bool.and_eq_true] at h
      rw [a.eq_of_same h.1, eq_of_sameItems h.2]
termination_by structural as

theorem eq_of_sameEntries {as bs : List (Expr × Expr)} (h : sameEntries as bs = true) :
    as = bs := by
  cases as with
  | nil => cases bs with
    | nil => rfl
    | cons => simp [sameEntries] at h
  | cons entry as => cases bs with
    | nil => simp [sameEntries] at h
    | cons other bs =>
      obtain ⟨a, c⟩ := entry
      obtain ⟨b, d⟩ := other
      simp only [sameEntries, Bool.and_eq_true] at h
      rw [a.eq_of_same h.1.1, c.eq_of_same h.1.2, eq_of_sameEntries h.2]
termination_by structural as

theorem eq_of_sameArgs {as bs : List (Option String × Expr)} (h : sameArgs as bs = true) :
    as = bs := by
  cases as with
  | nil => cases bs with
    | nil => rfl
    | cons => simp [sameArgs] at h
  | cons arg as => cases bs with
    | nil => simp [sameArgs] at h
    | cons other bs =>
      obtain ⟨n, a⟩ := arg
      obtain ⟨k, b⟩ := other
      simp only [sameArgs, Bool.and_eq_true, beq_iff_eq] at h
      rw [h.1.1, a.eq_of_same h.1.2, eq_of_sameArgs h.2]
termination_by structural as

theorem eq_of_sameOption {a b : Option Expr} (h : sameOption a b = true) : a = b := by
  cases a with
  | none => cases b with
    | none => rfl
    | some => simp [sameOption] at h
  | some a => cases b with
    | none => simp [sameOption] at h
    | some b =>
      simp only [sameOption] at h
      rw [a.eq_of_same h]
termination_by structural a

end

mutual

theorem Expr.same_self (a : Expr) : a.same a = true := by
  cases a with
  | literal | name => simp [Expr.same]
  | list as => simp [Expr.same, sameItems_self as]
  | map as => simp [Expr.same, sameEntries_self as]
  | negate l a | not l a => simp [Expr.same, a.same_self]
  | both l a c | either l a c | item l a c | binary l o a c =>
      simp [Expr.same, a.same_self, c.same_self]
  | choice l a c e => simp [Expr.same, a.same_self, c.same_self, sameOption_self e]
  | «attribute» l a n => simp [Expr.same, a.same_self]
  | slice l a c e g =>
      simp [Expr.same, a.same_self, sameOption_self c, sameOption_self e, sameOption_self g]
  | call l n as => simp [Expr.same, sameArgs_self as]
  | callMethod l a n as | callValue l a as | filter l a n as | test l a n as =>
      simp [Expr.same, a.same_self, sameArgs_self as]

theorem sameItems_self (as : List Expr) : sameItems as as = true := by
  cases as with
  | nil => simp [sameItems]
  | cons a as => simp [sameItems, a.same_self, sameItems_self as]

theorem sameEntries_self (as : List (Expr × Expr)) : sameEntries as as = true := by
  cases as with
  | nil => simp [sameEntries]
  | cons entry as =>
      obtain ⟨a, c⟩ := entry
      simp [sameEntries, a.same_self, c.same_self, sameEntries_self as]

theorem sameArgs_self (as : List (Option String × Expr)) : sameArgs as as = true := by
  cases as with
  | nil => simp [sameArgs]
  | cons arg as =>
      obtain ⟨n, a⟩ := arg
      simp [sameArgs, a.same_self, sameArgs_self as]

theorem sameOption_self (a : Option Expr) : sameOption a a = true := by
  cases a with
  | none => simp [sameOption]
  | some a => simp [sameOption, a.same_self]

end

instance : DecidableEq Expr := fun a b =>
  decidable_of_iff (a.same b = true) ⟨Expr.eq_of_same, fun h => h ▸ a.same_self⟩

deriving instance DecidableEq for TextFilter

mutual

/-- Whether two targets are the same node by node. -/
def Target.same : Target → Target → Bool
  | .name a => fun | .name b => a == b | _ => false
  | .attribute a => fun | .attribute b => a == b | _ => false
  | .list as => fun | .list bs => sameTargets as bs | _ => false

def sameTargets : List Target → List Target → Bool
  | [], [] => true
  | a :: as, b :: bs => a.same b && sameTargets as bs
  | _, _ => false

end

mutual

theorem Target.eq_of_same {a b : Target} (h : a.same b = true) : a = b := by
  cases a with
  | name | «attribute» =>
      simp only [Target.same] at h
      split at h
      · simpa using h
      · cases h
  | list as =>
      simp only [Target.same] at h
      split at h
      · rw [eq_of_sameTargets h]
      · cases h
termination_by structural a

theorem eq_of_sameTargets {as bs : List Target} (h : sameTargets as bs = true) : as = bs := by
  cases as with
  | nil => cases bs with
    | nil => rfl
    | cons => simp [sameTargets] at h
  | cons a as => cases bs with
    | nil => simp [sameTargets] at h
    | cons b bs =>
      simp only [sameTargets, Bool.and_eq_true] at h
      rw [a.eq_of_same h.1, eq_of_sameTargets h.2]
termination_by structural as

end

mutual

theorem Target.same_self (a : Target) : a.same a = true := by
  cases a with
  | name | «attribute» => simp [Target.same]
  | list as => simp [Target.same, sameTargets_self as]

theorem sameTargets_self (as : List Target) : sameTargets as as = true := by
  cases as with
  | nil => simp [sameTargets]
  | cons a as => simp [sameTargets, a.same_self, sameTargets_self as]

end

instance : DecidableEq Target := fun a b =>
  decidable_of_iff (a.same b = true) ⟨Target.eq_of_same, fun h => h ▸ a.same_self⟩

mutual

/-- Whether two statements are the same node by node. -/
def Stmt.same : Stmt → Stmt → Bool
  | .text a => fun | .text b => a == b | _ => false
  | .print l a => fun | .print m b => l == m && a == b | _ => false
  | .branch l a y n => fun
    | .branch m b z o => l == m && a == b && sameStmts y z && sameStmts n o
    | _ => false
  | .each l t a k y n => fun
    | .each m u b j z o =>
      l == m && t == u && a == b && k == j && sameStmts y z && sameStmts n o
    | _ => false
  | .assign l t a => fun | .assign m u b => l == m && t == u && a == b | _ => false
  | .capture l t f y => fun
    | .capture m u g z => l == m && t == u && f == g && sameStmts y z
    | _ => false
  | .scope l a y => fun | .scope m b z => l == m && a == b && sameStmts y z | _ => false
  | .filtered f y => fun | .filtered g z => f == g && sameStmts y z | _ => false
  | .define n p y => fun | .define k q z => n == k && p == q && sameStmts y z | _ => false
  | .embed l a o => fun | .embed m b p => l == m && a == b && o == p | _ => false

def sameStmts : List Stmt → List Stmt → Bool
  | [], [] => true
  | a :: as, b :: bs => a.same b && sameStmts as bs
  | _, _ => false

end

mutual

theorem Stmt.eq_of_same {a b : Stmt} (h : a.same b = true) : a = b := by
  cases a with
  | text | print | assign | embed =>
      simp only [Stmt.same] at h
      split at h
      · simpa [and_assoc] using h
      · cases h
  | branch l a y n =>
      simp only [Stmt.same] at h
      split at h
      · simp only [Bool.and_eq_true, beq_iff_eq] at h
        rw [h.1.1.1, h.1.1.2, eq_of_sameStmts h.1.2, eq_of_sameStmts h.2]
      · cases h
  | each l t a k y n =>
      simp only [Stmt.same] at h
      split at h
      · simp only [Bool.and_eq_true, beq_iff_eq] at h
        rw [h.1.1.1.1.1, h.1.1.1.1.2, h.1.1.1.2, h.1.1.2, eq_of_sameStmts h.1.2,
          eq_of_sameStmts h.2]
      · cases h
  | capture l t f y =>
      simp only [Stmt.same] at h
      split at h
      · simp only [Bool.and_eq_true, beq_iff_eq] at h
        rw [h.1.1.1, h.1.1.2, h.1.2, eq_of_sameStmts h.2]
      · cases h
  | scope l a y | define n p y =>
      simp only [Stmt.same] at h
      split at h
      · simp only [Bool.and_eq_true, beq_iff_eq] at h
        rw [h.1.1, h.1.2, eq_of_sameStmts h.2]
      · cases h
  | filtered f y =>
      simp only [Stmt.same] at h
      split at h
      · simp only [Bool.and_eq_true, beq_iff_eq] at h
        rw [h.1, eq_of_sameStmts h.2]
      · cases h
termination_by structural a

theorem eq_of_sameStmts {as bs : List Stmt} (h : sameStmts as bs = true) : as = bs := by
  cases as with
  | nil => cases bs with
    | nil => rfl
    | cons => simp [sameStmts] at h
  | cons a as => cases bs with
    | nil => simp [sameStmts] at h
    | cons b bs =>
      simp only [sameStmts, Bool.and_eq_true] at h
      rw [a.eq_of_same h.1, eq_of_sameStmts h.2]
termination_by structural as

end

mutual

theorem Stmt.same_self (a : Stmt) : a.same a = true := by
  cases a with
  | text | print | assign | embed => simp [Stmt.same]
  | branch l a y n | each l t a k y n =>
      simp [Stmt.same, sameStmts_self y, sameStmts_self n]
  | capture l t f y | scope l a y | filtered f y | define n p y =>
      simp [Stmt.same, sameStmts_self y]

theorem sameStmts_self (as : List Stmt) : sameStmts as as = true := by
  cases as with
  | nil => simp [sameStmts]
  | cons a as => simp [sameStmts, a.same_self, sameStmts_self as]

end

instance : DecidableEq Stmt := fun a b =>
  decidable_of_iff (a.same b = true) ⟨Stmt.eq_of_same, fun h => h ▸ a.same_self⟩

end ClientGen.Template
