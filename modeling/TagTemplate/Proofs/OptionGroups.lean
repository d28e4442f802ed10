import TagTemplate.Command
import TagTemplate.Proofs.Lexemes

/-!
The arguments of a rendering as groups in any order. A group is a flag together with the argument
that it takes, a flag that takes none, or the path of the template. Arguments are accepted exactly
if they are groups in a row with one path among them, and every option has the value of the last
group that sets it.
-/

namespace TagTemplate

def ParameterScope.flag : ParameterScope → String
  | .request => "-p"
  | .persistent => "-P"
  | .temporary => "-t"

/-- Arguments that belong together. A name ends at the first equals sign, and a text that starts
with a hyphen is no path. -/
inductive ArgumentGroup where
  | parameter (scope : ParameterScope) (name value : String)
      (named : name ≠ "" ∧ '=' ∉ name.toList)
  | headers
  | mimeType (value : String)
  | encoding (value : String)
  | template (path : String) (plain : path.toList.head? ≠ some '-')
  deriving DecidableEq

inductive Setting where
  | parameter (scope : ParameterScope) (name : String)
  | mimeType
  | encoding
  deriving DecidableEq

namespace ArgumentGroup

def arguments : ArgumentGroup → List String
  | .parameter scope name value _ => [scope.flag, name ++ "=" ++ value]
  | .headers => ["--headers"]
  | .mimeType value => ["--mime", value]
  | .encoding value => ["--encoding", value]
  | .template path _ => [path]

def value? (setting : Setting) : ArgumentGroup → Option String
  | .parameter scope name value _ =>
      if setting = .parameter scope name then some value else none
  | .mimeType value => if setting = .mimeType then some value else none
  | .encoding value => if setting = .encoding then some value else none
  | .headers | .template _ _ => none

def sets (setting : Setting) (group : ArgumentGroup) : Bool :=
  (group.value? setting).isSome

def path? : ArgumentGroup → Option String
  | .template path _ => some path
  | _ => none

def spelled (groups : List ArgumentGroup) : List String :=
  groups.flatMap arguments

def lastValue? (groups : List ArgumentGroup) (setting : Setting) : Option String :=
  (groups.filterMap (value? setting)).getLast?

/-- Arguments are groups in a row, of which exactly one is a path. -/
structure Split (arguments : List String) (groups : List ArgumentGroup) (path : String) : Prop where
  spelled : spelled groups = arguments
  path : groups.filterMap path? = [path]

/-- The same groups in an order in which no two groups for one setting have changed places. -/
structure Reordered (groups reordered : List ArgumentGroup) : Prop where
  perm : groups.Perm reordered
  sets : ∀ setting, groups.filter (sets setting) = reordered.filter (sets setting)

theorem spelled_cons (group : ArgumentGroup) (others : List ArgumentGroup) :
    spelled (group :: others) = group.arguments ++ spelled others :=
  List.flatMap_cons

theorem lastValue?_cons (group : ArgumentGroup) (others : List ArgumentGroup) (setting : Setting) :
    lastValue? (group :: others) setting =
      (lastValue? others setting).or (group.value? setting) := by
  rw [lastValue?, ← List.singleton_append, List.filterMap_append, List.getLast?_append]
  congr 1
  cases given : group.value? setting <;> simp [given]

theorem lastValue?_filter_sets (groups : List ArgumentGroup) (setting : Setting) :
    lastValue? (groups.filter (sets setting)) setting = lastValue? groups setting := by
  rw [lastValue?, lastValue?, List.filterMap_filter]
  congr 2
  funext group
  cases given : group.value? setting <;> simp [sets, given]

end ArgumentGroup

open ArgumentGroup (Split Reordered spelled spelled_cons lastValue?)

namespace RenderOptions

def value? (options : RenderOptions) : Setting → Option String
  | .parameter .request name => options.request[name]?
  | .parameter .persistent name => options.persistent[name]?
  | .parameter .temporary name => options.temporary[name]?
  | .mimeType => options.mimeType
  | .encoding => options.encoding

structure Collects (options : RenderOptions) (groups : List ArgumentGroup) : Prop where
  value : ∀ setting, options.value? setting = lastValue? groups setting
  headers : options.emitsHead = true ↔ .headers ∈ groups

def apply (options : RenderOptions) : ArgumentGroup → RenderOptions
  | .parameter scope name value _ => options.setParameter scope name value
  | .headers => { options with emitsHead := true }
  | .mimeType value => { options with mimeType := some value }
  | .encoding value => { options with encoding := some value }
  | .template _ _ => options

def conclude (options : RenderOptions) : List String → Except UsageError (String × RenderOptions)
  | [path] => .ok (path, options)
  | [] => .error .missingTemplate
  | _ :: _ :: _ => .error .manyTemplates

variable {options : RenderOptions} {groups : List ArgumentGroup}

theorem ext_value? {left right : RenderOptions} (headers : left.emitsHead = right.emitsHead)
    (values : ∀ setting, left.value? setting = right.value? setting) : left = right := by
  obtain ⟨_, _, _, _, _, _⟩ := left
  obtain ⟨_, _, _, _, _, _⟩ := right
  obtain rfl := Std.ExtTreeMap.ext_getElem? fun name => values (.parameter .request name)
  obtain rfl := Std.ExtTreeMap.ext_getElem? fun name => values (.parameter .persistent name)
  obtain rfl := Std.ExtTreeMap.ext_getElem? fun name => values (.parameter .temporary name)
  obtain rfl : _ = _ := headers
  obtain rfl : _ = _ := values .mimeType
  obtain rfl : _ = _ := values .encoding
  rfl

theorem Collects.unique {left right : RenderOptions} (first : left.Collects groups)
    (second : right.Collects groups) : left = right :=
  ext_value? (Bool.eq_iff_iff.mpr (first.headers.trans second.headers.symm))
    fun setting => (first.value setting).trans (second.value setting).symm

theorem Collects.reordered {reordered : List ArgumentGroup} (collects : options.Collects groups)
    (same : Reordered groups reordered) : options.Collects reordered where
  value setting := by
    rw [collects.value, ← ArgumentGroup.lastValue?_filter_sets, same.sets,
      ArgumentGroup.lastValue?_filter_sets]
  headers := collects.headers.trans same.perm.mem_iff

theorem value?_setParameter (options : RenderOptions) (scope : ParameterScope)
    (name value : String) (setting : Setting) :
    (options.setParameter scope name value).value? setting =
      if setting = .parameter scope name then some value else options.value? setting := by
  cases setting with
  | parameter other wanted =>
      cases scope <;> cases other <;>
        simp [setParameter, value?, Std.ExtTreeMap.getElem?_insert, eq_comm (a := wanted)]
  | mimeType => cases scope <;> rfl
  | encoding => cases scope <;> rfl

theorem value?_apply (options : RenderOptions) (group : ArgumentGroup) (setting : Setting) :
    (options.apply group).value? setting =
      (group.value? setting).or (options.value? setting) := by
  cases group with
  | parameter scope name value named =>
      rw [apply, value?_setParameter, ArgumentGroup.value?]
      split <;> rfl
  | headers | template | mimeType | encoding =>
      rcases setting with ⟨_ | _ | _, name⟩ | _ | _ <;> rfl

theorem value?_foldl_apply (options : RenderOptions) (groups : List ArgumentGroup)
    (setting : Setting) :
    (groups.foldl apply options).value? setting =
      (lastValue? groups setting).or (options.value? setting) := by
  induction groups generalizing options with
  | nil => rfl
  | cons group others ih =>
      rw [List.foldl_cons, ih, value?_apply, ArgumentGroup.lastValue?_cons, Option.or_assoc]

theorem emitsHead_apply (options : RenderOptions) (group : ArgumentGroup) :
    (options.apply group).emitsHead = true ↔ options.emitsHead = true ∨ .headers = group := by
  cases group with
  | parameter scope name value named => cases scope <;> simp [apply, setParameter]
  | headers | template | mimeType | encoding => simp [apply]

theorem emitsHead_foldl_apply (options : RenderOptions) (groups : List ArgumentGroup) :
    (groups.foldl apply options).emitsHead = true ↔
      options.emitsHead = true ∨ .headers ∈ groups := by
  induction groups generalizing options with
  | nil => simp
  | cons group others ih => rw [List.foldl_cons, ih, emitsHead_apply, List.mem_cons, or_assoc]

theorem collects_foldl_apply (groups : List ArgumentGroup) :
    (groups.foldl apply standard).Collects groups where
  value setting := by
    have unset : standard.value? setting = none := by
      rcases setting with ⟨_ | _ | _, name⟩ | _ | _ <;> simp [standard, value?]
    rw [value?_foldl_apply, unset, Option.or_none]
  headers := by simp [emitsHead_foldl_apply, standard]

theorem conclude_perm {paths others : List String} (same : paths.Perm others)
    (options : RenderOptions) : options.conclude paths = options.conclude others := by
  match paths, others, same.length_eq with
  | [], [], _ => rfl
  | [path], [other], _ => rw [List.singleton_perm_singleton.mp same]
  | _ :: _ :: _, _ :: _ :: _, _ => rfl

theorem conclude_eq_ok {paths : List String} {path : String} {result : RenderOptions}
    (concluded : options.conclude paths = .ok (path, result)) : paths = [path] := by
  match paths with
  | [] => cases concluded
  | [_] => rw [(Prod.mk.inj (Except.ok.inj concluded)).1]
  | _ :: _ :: _ => cases concluded

end RenderOptions

theorem readAssignment_eq_ok_iff {text name value : String} :
    readAssignment text = .ok (name, value) ↔
      text = name ++ "=" ++ value ∧ name ≠ "" ∧ '=' ∉ name.toList := by
  constructor
  · intro accepted
    have whole := List.takeWhile_append_dropWhile (p := (· ≠ '=')) (l := text.toList)
    have closing := List.head?_dropWhile_not (· ≠ '=') text.toList
    have before : ∀ character ∈ text.toList.takeWhile (· ≠ '='), decide (character ≠ '=') = true :=
      passes_of_mem_takeWhile
    simp only [readAssignment] at accepted
    split at accepted
    · rename_i first others sign rest taken dropped
      rw [dropped] at whole closing
      obtain ⟨rfl, rfl⟩ := Prod.mk.inj (Except.ok.inj accepted)
      obtain rfl : sign = '=' := by simpa using closing
      refine ⟨String.toList_injective ?_, ?_, ?_⟩
      · simpa using whole.symm
      · rw [taken]
        simp
      · intro inside
        have differs := before '=' (by simpa using inside)
        simp at differs
    · cases accepted
  · rintro ⟨rfl, nonempty, plain⟩
    have passes : ∀ character ∈ name.toList, decide (character ≠ '=') = true := by
      intro character member
      exact decide_eq_true fun same => plain (same ▸ member)
    obtain ⟨taken, dropped⟩ := span_append (· ≠ '=') name.toList ('=' :: value.toList) passes
      fun first ahead => by simp [← Option.some.inj ahead]
    have split : (name ++ "=" ++ value).toList = name.toList ++ '=' :: value.toList := by simp
    rw [readAssignment, split, taken, dropped]
    cases characters : name.toList with
    | nil => exact absurd (String.toList_eq_nil_iff.mp characters) nonempty
    | cons first others => simp [← characters]

namespace RenderOptions

namespace Argument

def Reads : Argument → String → Prop
  | .parameter scope, text => text = scope.flag
  | .headers, text => text = "--headers"
  | .mimeType, text => text = "--mime"
  | .encoding, text => text = "--encoding"
  | .unknownFlag, _ => True
  | .file, text => text.toList.head? ≠ some '-'

theorem startsWith_hyphen_iff {text : String} :
    text.startsWith "-" = true ↔ text.toList.head? = some '-' := by
  rw [String.startsWith_string_iff]
  cases characters : text.toList with
  | nil => simp
  | cons first others => simp [eq_comm]

theorem reads_of_ofText {text : String} {argument : Argument} (found : ofText text = argument) :
    argument.Reads text := by
  subst found
  unfold ofText
  repeat' split
  case isFalse notHyphen => exact fun hyphen => notHyphen (startsWith_hyphen_iff.mpr hyphen)
  all_goals first | assumption | exact trivial

theorem ofText_path {path : String} (plain : path.toList.head? ≠ some '-') :
    ofText path = .file := by
  have differs {flag : String} (hyphen : flag.toList.head? = some '-') : path ≠ flag := by
    rintro rfl
    exact plain hyphen
  simp only [ofText]
  rw [if_neg (differs rfl), if_neg (differs rfl), if_neg (differs rfl), if_neg (differs rfl),
    if_neg (differs rfl), if_neg (differs rfl), if_neg (mt startsWith_hyphen_iff.mp plain)]

theorem ofText_flag (scope : ParameterScope) : ofText scope.flag = .parameter scope := by
  cases scope <;> rfl

end Argument

open Argument (ofText_path ofText_flag reads_of_ofText)

theorem read_arguments_append {group : ArgumentGroup} (plain : group.path? = none)
    (path : Option String) (options : RenderOptions) (others : List String) :
    read path options (group.arguments ++ others) = read path (options.apply group) others := by
  cases group with
  | parameter scope name value named =>
      have assigned : readAssignment (name ++ "=" ++ value) = .ok (name, value) :=
        readAssignment_eq_ok_iff.mpr ⟨rfl, named⟩
      rw [ArgumentGroup.arguments, List.cons_append, List.singleton_append, read.eq_def]
      simp only [ofText_flag, assigned, apply]
  | headers => rw [ArgumentGroup.arguments, List.singleton_append, read.eq_def]; rfl
  | mimeType value | encoding value =>
      rw [ArgumentGroup.arguments, List.cons_append, List.singleton_append, read.eq_def]
      rfl
  | template own plain => cases plain

theorem read_path {own : String} (plain : own.toList.head? ≠ some '-') (path : Option String)
    (options : RenderOptions) (others : List String) :
    read path options (own :: others) =
      match path with
      | some _ => .error .manyTemplates
      | none => read (some own) options others := by
  rw [read.eq_def]
  cases path <;> simp only [ofText_path plain]

theorem read_spelled (groups : List ArgumentGroup) (path : Option String)
    (options : RenderOptions) :
    read path options (spelled groups) =
      (groups.foldl apply options).conclude
        (path.toList ++ groups.filterMap ArgumentGroup.path?) := by
  induction groups generalizing path options with
  | nil => cases path <;> rfl
  | cons group others ih =>
      rw [spelled_cons]
      cases own : group.path? with
      | none => rw [read_arguments_append own, ih, List.foldl_cons, List.filterMap_cons_none own]
      | some found =>
          rw [List.filterMap_cons_some own, List.foldl_cons]
          cases group with
          | template template plain =>
              obtain rfl := Option.some.inj own
              rw [ArgumentGroup.arguments, List.singleton_append, read_path plain]
              cases path with
              | none => exact ih (some template) options
              | some first => rfl
          | _ => cases own

theorem exists_spelled {path : Option String} {options : RenderOptions} {arguments : List String}
    {result : String × RenderOptions} (accepted : read path options arguments = .ok result) :
    ∃ groups, spelled groups = arguments := by
  have inFront (group : ArgumentGroup) {rest : List String}
      (others : ∃ groups, spelled groups = rest) :
      ∃ groups, spelled groups = group.arguments ++ rest := by
    obtain ⟨groups, rfl⟩ := others
    exact ⟨group :: groups, spelled_cons group groups⟩
  fun_induction read path options arguments with
  | case1 => exact ⟨[], rfl⟩
  | case3 path options text rest found ih =>
      obtain rfl : text = "--headers" := reads_of_ofText found
      exact inFront .headers (ih accepted)
  | case6 options text rest found ih =>
      exact inFront (.template text (reads_of_ofText found)) (ih accepted)
  | case8 path options text scope found assignment rest name value assigned ih =>
      obtain rfl : text = scope.flag := reads_of_ofText found
      obtain ⟨rfl, named⟩ := readAssignment_eq_ok_iff.mp assigned
      exact inFront (.parameter scope name value named) (ih accepted)
  | case11 path options text found value rest ih =>
      obtain rfl : text = "--mime" := reads_of_ofText found
      exact inFront (.mimeType value) (ih accepted)
  | case13 path options text found value rest ih =>
      obtain rfl : text = "--encoding" := reads_of_ofText found
      exact inFront (.encoding value) (ih accepted)
  | _ => cases accepted

theorem read_of_split {arguments : List String} {path : String}
    (split : Split arguments groups path) :
    read none standard arguments = .ok (path, groups.foldl apply standard) := by
  rw [← split.spelled, read_spelled, split.path]
  rfl

theorem exists_split {arguments : List String} {path : String}
    (accepted : read none standard arguments = .ok (path, options)) :
    ∃ groups, Split arguments groups path := by
  obtain ⟨groups, rfl⟩ := exists_spelled accepted
  rw [read_spelled] at accepted
  exact ⟨groups, rfl, conclude_eq_ok accepted⟩

theorem read_reordered {reordered : List ArgumentGroup} (same : Reordered groups reordered) :
    read none standard (spelled reordered) = read none standard (spelled groups) := by
  have options : reordered.foldl apply standard = groups.foldl apply standard :=
    (collects_foldl_apply reordered).unique ((collects_foldl_apply groups).reordered same)
  rw [read_spelled, read_spelled, options]
  exact conclude_perm ((same.perm.filterMap ArgumentGroup.path?).append_left _).symm _

end RenderOptions

theorem Command.exitCode_run_of_usage {arguments : List String} {error : UsageError}
    (refused : ofArguments arguments = .error error)
    (readFile : String → Except String ByteArray) : (run arguments readFile).exitCode = 2 := by
  simp only [run, refused]
  rfl

theorem Command.ofArguments_render {arguments : List String} {error : UsageError}
    (refused : RenderOptions.read none .standard arguments = .error error) :
    ofArguments ("render" :: arguments) = .error error := by
  simp only [ofArguments, ↓reduceIte, refused]
  rfl

/-- The arguments of a rendering are accepted exactly if they split into groups with one path among
them. The result then is this path with the options that the groups ask for, the last one for each
setting, so that the order of groups does not matter as long as those for one setting keep theirs.
All other arguments are an error in the usage of the program. -/
theorem RenderOptions.read_groups (arguments : List String) :
    ((∃ path options, read none standard arguments = .ok (path, options)) ↔
      ∃ groups path, Split arguments groups path) ∧
    (∀ groups path, Split arguments groups path →
      ∃ options, read none standard arguments = .ok (path, options) ∧ options.Collects groups) ∧
    (∀ groups reordered, spelled groups = arguments → Reordered groups reordered →
      read none standard (spelled reordered) = read none standard arguments) ∧
    ((¬∃ groups path, Split arguments groups path) →
      ∃ error, read none standard arguments = .error error ∧
        Command.ofArguments ("render" :: arguments) = .error error ∧
        ∀ readFile, (Command.run ("render" :: arguments) readFile).exitCode = 2) := by
  refine ⟨⟨?_, ?_⟩, ?_, ?_, ?_⟩
  · rintro ⟨path, options, accepted⟩
    obtain ⟨groups, split⟩ := exists_split accepted
    exact ⟨groups, path, split⟩
  · rintro ⟨groups, path, split⟩
    exact ⟨path, _, read_of_split split⟩
  · intro groups path split
    exact ⟨_, read_of_split split, collects_foldl_apply groups⟩
  · rintro groups reordered rfl same
    exact read_reordered same
  · intro noSplit
    cases outcome : read none standard arguments with
    | ok result =>
        obtain ⟨groups, split⟩ := exists_split outcome
        exact absurd ⟨groups, _, split⟩ noSplit
    | error error =>
        have refused := Command.ofArguments_render outcome
        exact ⟨error, rfl, refused, Command.exitCode_run_of_usage refused⟩

def flagAsValue : List ArgumentGroup :=
  [.parameter .request "a" "1" (by decide), .mimeType "-p", .template "page" (by decide),
    .parameter .request "a" "x=y" (by decide), .headers]

def flagAsValueReordered : List ArgumentGroup :=
  [.headers, .parameter .request "a" "1" (by decide), .parameter .request "a" "x=y" (by decide),
    .template "page" (by decide), .mimeType "-p"]

theorem RenderOptions.read_flagAsValue :
    Split ["-p", "a=1", "--mime", "-p", "page", "-p", "a=x=y", "--headers"] flagAsValue "page" ∧
      Reordered flagAsValue flagAsValueReordered ∧
      ∃ options, read none standard
          ["--headers", "-p", "a=1", "-p", "a=x=y", "page", "--mime", "-p"] =
            .ok ("page", options) ∧
        options.request["a"]? = some "x=y" ∧ options.mimeType = some "-p" ∧
        options.encoding = none ∧ options.emitsHead = true := by
  have split : Split ["-p", "a=1", "--mime", "-p", "page", "-p", "a=x=y", "--headers"]
      flagAsValue "page" := ⟨by decide, by decide⟩
  have same : Reordered flagAsValue flagAsValueReordered := by
    constructor
    case perm => decide
    case sets =>
      intro setting
      rcases setting with ⟨scope, name⟩ | _ | _
      · simp [flagAsValue, flagAsValueReordered, List.filter_cons, ArgumentGroup.sets,
          ArgumentGroup.value?]
      · rfl
      · rfl
  obtain ⟨-, accepts, reorders, -⟩ := read_groups
    ["-p", "a=1", "--mime", "-p", "page", "-p", "a=x=y", "--headers"]
  obtain ⟨options, accepted, collects⟩ := accepts flagAsValue "page" split
  have reordered := reorders flagAsValue flagAsValueReordered split.spelled same
  refine ⟨split, same, options, reordered.trans accepted, ?_⟩
  exact ⟨collects.value (.parameter .request "a"), collects.value .mimeType,
    collects.value .encoding, collects.headers.mpr (by simp [flagAsValue])⟩

end TagTemplate
