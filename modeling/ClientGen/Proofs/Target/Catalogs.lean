import ClientGen.Proofs.Json.Fields
import ClientGen.Proofs.Target.Emission
import ClientGen.Target.Catalog
import Mathlib.Data.List.Induction

/-! # Catalogs

A catalog is filled by one request after the other. A request that fails leaves it as it was. What
is stored last under a name counts until the catalog starts again, the names are sorted, and a name
that has no target is refused with all names that have one.
-/

namespace ClientGen

namespace Target

variable {language : String} {sdk : Sdk} {target : Target}

theorem check_of_builtin (built : builtin language sdk = .ok target) : sdk.check = .ok () := by
  unfold builtin at built
  split at built
  case h_5 => cases built
  all_goals
    obtain ⟨_, checked, -⟩ := Json.bind_eq_ok.mp built
    exact Json.mapError_eq_ok.mp checked

theorem builtin_of_not_mem (unknown : language ∉ builtinLanguages) :
    (builtin language sdk).toOption = none := by
  unfold builtin
  split
  case h_5 => rfl
  all_goals exact absurd (by decide) unknown

theorem mem_of_builtin (built : builtin language sdk = .ok target) :
    language ∈ builtinLanguages := by
  by_contra unknown
  have missing : (builtin language sdk).toOption = none := builtin_of_not_mem unknown
  rw [built] at missing
  cases missing

theorem exists_builtin_iff :
    (∃ target, builtin language sdk = .ok target) ↔
      language ∈ builtinLanguages ∧ sdk.check = .ok () := by
  constructor
  · rintro ⟨target, built⟩
    exact ⟨mem_of_builtin built, check_of_builtin built⟩
  · rintro ⟨known, valid⟩
    obtain ⟨form, listed, rfl⟩ := exists_form known
    obtain ⟨target, built, -⟩ := builtin_describes listed valid
    exact ⟨target, built⟩

end Target

namespace Catalog

variable {name other : String} {target : Target} {catalog start : Catalog} {sdk : Sdk}

theorem insertEntry_putsInOrder : PutsInOrder insertEntry where
  last _ _ := rfl
  front _ _ _ smaller := by rw [insertEntry, if_neg smaller.ne, if_pos smaller]
  replace _ _ _ _ := by rw [insertEntry, if_pos rfl]
  behind _ _ _ greater := by rw [insertEntry, if_neg greater.ne', if_neg greater.not_gt]

theorem get?_insert (catalog : Catalog) (name other : String) (target : Target) :
    (catalog.insert name target).get? other
      = if other = name then some target else catalog.get? other :=
  (insertEntry_putsInOrder.inserts name target catalog.entries).lookup_eq other

theorem mem_names_iff : name ∈ catalog.names ↔ ∃ target, catalog.get? name = some target :=
  mem_keys_iff

/-- The names are sorted, each of them once. -/
def Ordered (catalog : Catalog) : Prop :=
  catalog.entries.Pairwise fun a b => a.1 < b.1

theorem Ordered.empty : Ordered {} :=
  List.Pairwise.nil

theorem Ordered.insert (ordered : catalog.Ordered) (name : String) (target : Target) :
    (catalog.insert name target).Ordered :=
  insertEntry_putsInOrder.pairwise name target ordered

theorem Ordered.names (ordered : catalog.Ordered) : catalog.names.Pairwise (· < ·) :=
  List.pairwise_map.mpr ordered

theorem resolve_eq_ok_iff :
    catalog.resolve name = .ok target ↔ catalog.get? name = some target := by
  rw [resolve]
  cases catalog.get? name <;> simp

theorem resolve_eq_error_iff {error : GenerationError} :
    catalog.resolve name = .error error ↔
      name ∉ catalog.names ∧ error = .unsupportedLanguage name catalog.names := by
  rw [mem_names_iff, resolve]
  cases catalog.get? name <;> simp [eq_comm]

/-- Store the built-in targets of some languages, one after another. -/
def insertBuiltins (sdk : Sdk) (languages : List String) (start : Catalog) :
    Except GenerationError Catalog :=
  languages.foldlM
    (fun catalog language => do return catalog.insert language (← Target.builtin language sdk))
    start

theorem ofBuiltins_eq_ok_iff :
    ofBuiltins sdk = .ok catalog ↔
      sdk.check = .ok () ∧ insertBuiltins sdk Target.builtinLanguages {} = .ok catalog := by
  constructor
  · intro built
    obtain ⟨_, checked, built⟩ := Json.bind_eq_ok.mp built
    exact ⟨Json.mapError_eq_ok.mp checked, built⟩
  · rintro ⟨valid, built⟩
    exact Json.bind_ok (Target.checkSdk_eq valid) built

theorem insertBuiltins_cons_eq_ok_iff {language : String} {rest : List String} :
    insertBuiltins sdk (language :: rest) start = .ok catalog ↔
      ∃ target, Target.builtin language sdk = .ok target ∧
        insertBuiltins sdk rest (start.insert language target) = .ok catalog := by
  rw [insertBuiltins, List.foldlM_cons]
  constructor
  · intro built
    obtain ⟨next, added, built⟩ := Json.bind_eq_ok.mp built
    obtain ⟨target, known, added⟩ := Json.bind_eq_ok.mp added
    cases added
    exact ⟨target, known, built⟩
  · rintro ⟨target, known, built⟩
    exact Json.bind_ok (Json.bind_ok known rfl) built

theorem get?_insertBuiltins {languages : List String}
    (built : insertBuiltins sdk languages start = .ok catalog) (name : String) :
    catalog.get? name
      = if name ∈ languages then (Target.builtin name sdk).toOption else start.get? name := by
  induction languages generalizing start with
  | nil =>
      cases built
      rfl
  | cons language rest ih =>
      obtain ⟨target, known, built⟩ := insertBuiltins_cons_eq_ok_iff.mp built
      rw [ih built, get?_insert]
      by_cases later : name ∈ rest
      · simp [later]
      · by_cases same : name = language
        · subst same
          simp [later, known, Except.toOption]
        · simp [later, same]

theorem Ordered.insertBuiltins (ordered : start.Ordered) {languages : List String}
    (built : insertBuiltins sdk languages start = .ok catalog) : catalog.Ordered := by
  induction languages generalizing start with
  | nil =>
      cases built
      exact ordered
  | cons language rest ih =>
      obtain ⟨target, -, built⟩ := insertBuiltins_cons_eq_ok_iff.mp built
      exact ih (ordered.insert language target) built

theorem exists_insertBuiltins {languages : List String}
    (built : ∀ language ∈ languages, ∃ target, Target.builtin language sdk = .ok target)
    (start : Catalog) : ∃ catalog, insertBuiltins sdk languages start = .ok catalog := by
  induction languages generalizing start with
  | nil => exact ⟨start, rfl⟩
  | cons language rest ih =>
      obtain ⟨⟨target, first⟩, others⟩ := List.forall_mem_cons.mp built
      obtain ⟨catalog, built⟩ := ih others (start.insert language target)
      exact ⟨catalog, insertBuiltins_cons_eq_ok_iff.mpr ⟨target, first, built⟩⟩

theorem get?_ofBuiltins (built : ofBuiltins sdk = .ok catalog) (name : String) :
    catalog.get? name = (Target.builtin name sdk).toOption := by
  obtain ⟨-, built⟩ := ofBuiltins_eq_ok_iff.mp built
  rw [get?_insertBuiltins built]
  split
  · rfl
  · rename_i unknown
    rw [Target.builtin_of_not_mem unknown]
    rfl

theorem exists_ofBuiltins (valid : sdk.check = .ok ()) :
    ∃ catalog, ofBuiltins sdk = .ok catalog := by
  have builds : ∀ language ∈ Target.builtinLanguages,
      ∃ target, Target.builtin language sdk = .ok target := fun _ known =>
    Target.exists_builtin_iff.mpr ⟨known, valid⟩
  obtain ⟨catalog, built⟩ := exists_insertBuiltins builds {}
  exact ⟨catalog, ofBuiltins_eq_ok_iff.mpr ⟨valid, built⟩⟩

theorem exists_ofBuiltins_iff :
    (∃ catalog, ofBuiltins sdk = .ok catalog) ↔ sdk.check = .ok () := by
  refine ⟨?_, exists_ofBuiltins⟩
  rintro ⟨catalog, built⟩
  exact (ofBuiltins_eq_ok_iff.mp built).1

/-- What can be asked of a catalog that is being filled. -/
inductive Request where
  /-- Start again with no targets. -/
  | clear
  /-- Start again with the built-in targets for a package. -/
  | builtins (sdk : Sdk)
  | store (name : String) (target : Target)
  /-- Store the built-in target of a language, under whatever name. -/
  | storeBuiltin (name language : String) (sdk : Sdk)

namespace Request

variable {request : Request}

def run (catalog : Catalog) : Request → Except GenerationError Catalog
  | clear => .ok {}
  | builtins sdk => ofBuiltins sdk
  | store name target => .ok (catalog.insert name target)
  | storeBuiltin name language sdk => do
    return catalog.insert name (← Target.builtin language sdk)

/-- The catalog after a request. One that fails leaves it as it was. -/
def after (catalog : Catalog) (request : Request) : Catalog :=
  (request.run catalog).toOption.getD catalog

/-- The package can be named and versioned as asked for, and the language is known. -/
def Succeeds : Request → Prop
  | clear | store .. => True
  | builtins sdk => sdk.check = .ok ()
  | storeBuiltin _ language sdk => language ∈ Target.builtinLanguages ∧ sdk.check = .ok ()

/-- The catalog starts again. -/
def Restarts : Request → Prop
  | clear => True
  | builtins sdk => sdk.check = .ok ()
  | store .. | storeBuiltin .. => False

/-- What a request stores under a name. -/
def stored? (name : String) : Request → Option Target
  | clear => none
  | builtins sdk => (Target.builtin name sdk).toOption
  | store other target => if name = other then some target else none
  | storeBuiltin other language sdk =>
    if name = other then (Target.builtin language sdk).toOption else none

/-- Nothing happens to a name. -/
def Leaves (name : String) (request : Request) : Prop :=
  ¬ request.Restarts ∧ request.stored? name = none

theorem exists_run_iff : (∃ next, request.run catalog = .ok next) ↔ request.Succeeds := by
  cases request with
  | clear => exact ⟨fun _ => trivial, fun _ => ⟨_, rfl⟩⟩
  | builtins sdk => exact exists_ofBuiltins_iff
  | store name target => exact ⟨fun _ => trivial, fun _ => ⟨_, rfl⟩⟩
  | storeBuiltin name language sdk =>
      rw [Succeeds, ← Target.exists_builtin_iff]
      constructor
      · rintro ⟨next, ran⟩
        obtain ⟨target, built, -⟩ := Json.bind_eq_ok.mp ran
        exact ⟨target, built⟩
      · rintro ⟨target, built⟩
        exact ⟨_, Json.bind_ok built rfl⟩

theorem after_of_run {next : Catalog} (ran : request.run catalog = .ok next) :
    request.after catalog = next := by
  rw [after, ran]
  rfl

theorem after_of_fails (fails : ¬ request.Succeeds) : request.after catalog = catalog := by
  rw [after]
  cases ran : request.run catalog with
  | ok next => exact absurd (exists_run_iff.mp ⟨next, ran⟩) fails
  | error error => rfl

theorem leaves_of_fails (fails : ¬ request.Succeeds) (name : String) : request.Leaves name := by
  cases request with
  | clear => exact absurd trivial fails
  | builtins sdk =>
      refine ⟨fails, ?_⟩
      cases built : Target.builtin name sdk with
      | ok target => exact absurd (Target.check_of_builtin built) fails
      | error error => rw [stored?, built]; rfl
  | store name target => exact absurd trivial fails
  | storeBuiltin other language sdk =>
      refine ⟨id, ?_⟩
      cases built : Target.builtin language sdk with
      | ok target => exact absurd (Target.exists_builtin_iff.mp ⟨target, built⟩) fails
      | error error => rw [stored?, built]; exact ite_self _

/-- What a request can do to a catalog, and what it then stores under each name. -/
inductive Effect (catalog : Catalog) (request : Request) : Catalog → Prop
  | cleared (restarts : request.Restarts) (stores : ∀ name, request.stored? name = none) :
      Effect catalog request {}
  | rebuilt {sdk : Sdk} {next : Catalog} (built : ofBuiltins sdk = .ok next)
      (restarts : request.Restarts)
      (stores : ∀ name, request.stored? name = (Target.builtin name sdk).toOption) :
      Effect catalog request next
  | inserted (name : String) (target : Target) (kept : ¬ request.Restarts)
      (stores : ∀ other, request.stored? other = if other = name then some target else none) :
      Effect catalog request (catalog.insert name target)
  | failed (leaves : ∀ name, request.Leaves name) : Effect catalog request catalog

theorem effect_after (catalog : Catalog) (request : Request) :
    Effect catalog request (request.after catalog) := by
  by_cases succeeds : request.Succeeds
  · obtain ⟨next, ran⟩ := exists_run_iff.mpr succeeds
    rw [after_of_run ran]
    cases request with
    | clear =>
        cases ran
        exact .cleared trivial fun _ => rfl
    | builtins sdk => exact .rebuilt ran succeeds fun _ => rfl
    | store name target =>
        cases ran
        exact .inserted name target id fun _ => rfl
    | storeBuiltin name language sdk =>
        obtain ⟨target, built, ran⟩ := Json.bind_eq_ok.mp ran
        cases ran
        refine .inserted name target id fun other => ?_
        rw [stored?, built]
        rfl
  · rw [after_of_fails succeeds]
    exact .failed (leaves_of_fails succeeds)

/-- What a name has after a request is what the request stores under it, or what it had before. -/
theorem get?_after (catalog : Catalog) (request : Request) (name : String) (target : Target) :
    (request.after catalog).get? name = some target ↔
      request.stored? name = some target ∨
        request.Leaves name ∧ catalog.get? name = some target := by
  have effect := effect_after catalog request
  generalize request.after catalog = next at effect
  cases effect with
  | cleared restarts stores => simp [get?, stores, Leaves, restarts]
  | rebuilt built restarts stores => simp [get?_ofBuiltins built, stores, Leaves, restarts]
  | inserted other stored kept stores =>
      rw [get?_insert]
      by_cases same : name = other <;> simp [stores, Leaves, kept, same]
  | failed leaves => simp [leaves name, (leaves name).2]

theorem ordered_after (ordered : catalog.Ordered) (request : Request) :
    (request.after catalog).Ordered := by
  have effect := effect_after catalog request
  generalize request.after catalog = next at effect
  cases effect with
  | cleared => exact .empty
  | rebuilt built => exact Ordered.empty.insertBuiltins (ofBuiltins_eq_ok_iff.mp built).2
  | inserted name target => exact ordered.insert name target
  | failed => exact ordered

end Request

variable {requests : List Request}

/-- The catalog after a run of requests. -/
def after (catalog : Catalog) (requests : List Request) : Catalog :=
  requests.foldl Request.after catalog

/-- Some request stores a target under a name, and those that follow leave the name alone. -/
def StoredLast (name : String) (target : Target) (requests : List Request) : Prop :=
  ∃ before request later, requests = before ++ request :: later ∧
    request.stored? name = some target ∧ ∀ other ∈ later, other.Leaves name

theorem after_concat (catalog : Catalog) (requests : List Request) (request : Request) :
    catalog.after (requests ++ [request]) = request.after (catalog.after requests) :=
  List.foldl_concat ..

theorem storedLast_concat {request : Request} :
    StoredLast name target (requests ++ [request]) ↔
      request.stored? name = some target ∨
        request.Leaves name ∧ StoredLast name target requests := by
  constructor
  · rintro ⟨before, first, later, split, stored, leave⟩
    obtain rfl | ⟨later, last, rfl⟩ := later.eq_nil_or_concat
    · obtain ⟨rfl, same⟩ := List.append_inj' split rfl
      cases same
      exact .inl stored
    · rw [List.concat_eq_append, ← List.cons_append, ← List.append_assoc] at split
      obtain ⟨rfl, same⟩ := List.append_inj' split rfl
      cases same
      rw [List.concat_eq_append, List.forall_mem_append] at leave
      exact .inr ⟨leave.2 request List.mem_cons_self, before, first, later, rfl, stored, leave.1⟩
  · rintro (stored | ⟨leaves, before, first, later, rfl, stored, leave⟩)
    · exact ⟨requests, request, [], rfl, stored, nofun⟩
    · refine ⟨before, first, later ++ [request], ?_, stored, ?_⟩
      · rw [List.append_assoc, List.cons_append]
      · simpa [or_imp, forall_and] using ⟨leave, leaves⟩

theorem get?_after (requests : List Request) (name : String) (target : Target) :
    (after {} requests).get? name = some target ↔ StoredLast name target requests := by
  induction requests using List.reverseRecOn with
  | nil => exact ⟨nofun, fun ⟨before, _, _, split, _⟩ => by cases before <;> cases split⟩
  | append_singleton requests request ih =>
      rw [after_concat, Request.get?_after, ih, storedLast_concat]

theorem Ordered.after (ordered : catalog.Ordered) (requests : List Request) :
    (catalog.after requests).Ordered := by
  induction requests generalizing catalog with
  | nil => exact ordered
  | cons request rest ih => exact ih (request.ordered_after ordered)

/-- A catalog that has been filled by any requests has the target that was stored last under a name
    since it started, and no others. Its names are sorted and are those that have a target, and
    asking for any other is refused with all of them. A request fails just if the package or the
    language is not usable, and then changes nothing. -/
theorem after_laws (requests : List Request) :
    let catalog := after {} requests
    (∀ name target, catalog.get? name = some target ↔ StoredLast name target requests) ∧
    catalog.names.Pairwise (· < ·) ∧
    (∀ name, name ∈ catalog.names ↔ ∃ target, catalog.get? name = some target) ∧
    catalog.size = catalog.names.length ∧
    (∀ name target, catalog.resolve name = .ok target ↔ catalog.get? name = some target) ∧
    (∀ name error, catalog.resolve name = .error error ↔
      name ∉ catalog.names ∧ error = .unsupportedLanguage name catalog.names) ∧
    (∀ request : Request,
      ((∃ next, request.run catalog = .ok next) ↔ request.Succeeds) ∧
      (¬ request.Succeeds → request.after catalog = catalog)) ∧
    ∀ sdk : Sdk,
      ((∃ built, ofBuiltins sdk = .ok built) ↔ sdk.check = .ok ()) ∧
      ∀ language ∈ Target.builtinLanguages,
        (∃ target, Target.builtin language sdk = .ok target) ↔ sdk.check = .ok () := by
  intro catalog
  refine ⟨get?_after requests, (Ordered.empty.after requests).names, fun _ => mem_names_iff,
    (List.length_map _).symm, fun _ _ => resolve_eq_ok_iff, fun _ _ => resolve_eq_error_iff,
    fun request => ⟨Request.exists_run_iff, Request.after_of_fails⟩, fun sdk =>
    ⟨exists_ofBuiltins_iff, fun language known => ?_⟩⟩
  rw [Target.exists_builtin_iff]
  exact and_iff_right known

/-- A name that is not a language gets one target after the other, and neither an unknown language
    nor an unusable version takes the last one away. -/
theorem after_laws_restored :
    let requests : List Request := [
      .builtins {}, .storeBuiltin "x" "dart" {}, .storeBuiltin "x" "go" {},
      .storeBuiltin "x" "cobol" {}, .builtins { version := "latest" }]
    let catalog := after {} requests
    "go" ∈ Target.builtinLanguages ∧ ∃ target, Target.builtin "go" {} = .ok target ∧
      catalog.get? "x" = some target ∧ catalog.resolve "x" = .ok target ∧ "x" ∈ catalog.names ∧
      catalog.names.Pairwise (· < ·) := by
  intro requests catalog
  obtain ⟨last, sorted, named, -, resolved, -, -, builds⟩ := after_laws requests
  have known : "go" ∈ Target.builtinLanguages := by decide
  obtain ⟨target, built⟩ := ((builds {}).2 "go" known).mpr Sdk.default_check
  have found : catalog.get? "x" = some target := by
    refine (last "x" target).mpr
      ⟨[.builtins {}, .storeBuiltin "x" "dart" {}], .storeBuiltin "x" "go" {}, _, rfl, ?_, ?_⟩
    · rw [Request.stored?, if_pos rfl, built]
      rfl
    · have unknown : ¬ (Request.storeBuiltin "x" "cobol" {}).Succeeds := fun succeeds =>
        absurd succeeds.1 (by decide)
      have invalid : ¬ (Request.builtins { version := "latest" }).Succeeds := by
        rw [Request.Succeeds]
        decide
      simp only [List.forall_mem_cons, List.not_mem_nil, false_imp_iff, implies_true, and_true]
      exact ⟨Request.leaves_of_fails unknown "x", Request.leaves_of_fails invalid "x"⟩
  exact ⟨known, target, built, found, (resolved "x" target).mpr found, (named "x").mpr ⟨_, found⟩,
    sorted⟩

end Catalog

end ClientGen
