import TagTemplate.Document.Walk
import TagTemplate.Proofs.LexicalScope

/-!
The order of a walk. A visitor that goes on with the walk wherever it does not fail meets the nodes
of a document in the order in which they are written: a node before its children, and siblings as
they are stored. The first failure ends the walk, at whatever depth it happens.
-/

namespace TagTemplate

/-- What a visitor is asked to do with a node: what it does with its kind or, inside of another
node, with any child. -/
inductive Visitor.Method where
  | document
  | text
  | loop
  | echo
  | child
  deriving DecidableEq

structure Visit where
  method : Visitor.Method
  node : Node

namespace Node

def method : Node → Visitor.Method
  | .document _ => .document
  | .text _ => .text
  | .loop _ _ => .loop
  | .echo _ => .echo

def visits (node : Node) : List Visit :=
  [⟨.child, node⟩, ⟨node.method, node⟩]

/-- The node at an address among siblings: its place among them, or the place of the sibling it is
in, followed by the address among the children of that one. -/
def find? : List Node → List Nat → Option Node
  | _, [] => none
  | siblings, [index] => siblings[index]?
  | siblings, index :: next :: below =>
      match siblings[index]? with
      | some sibling => find? sibling.children (next :: below)
      | none => none

/-- Addresses of nodes among siblings and inside of them: all there are, in increasing order. So a
node comes before its children, and siblings come as they are stored. -/
structure Locates (siblings : List Node) (addresses : List (List Nat)) (nodes : List Node) :
    Prop where
  increasing : addresses.Pairwise (· < ·)
  complete : ∀ address, address ∈ addresses ↔ (find? siblings address).isSome = true
  found : addresses.map (find? siblings) = nodes.map some

end Node

def Document.visits (document : Document) : List Visit :=
  -- The document itself is visited for its kind only.
  ⟨.document, document.toNode⟩ :: document.nodes.flatMap Node.visits

def Visitor.visiting {m : Type → Type} [Monad m] (visit : Visit → m Unit) : Visitor m where
  document := fun children walkChildren => do
    visit ⟨.document, .document children⟩
    walkChildren
  text := fun content => visit ⟨.text, .text content⟩
  loop := fun header children walkChildren => do
    visit ⟨.loop, .loop header children⟩
    walkChildren
  echo := fun elements => visit ⟨.echo, .echo elements⟩
  child := fun node visitKind => do
    visit ⟨.child, node⟩
    visitKind

abbrev Recording (ε : Type) := ExceptT ε (StateM (List Node))

/-- A visitor with some methods of its own. Each of these records the node it is called for and
then, depending on all that has been recorded, fails or goes on with the walk. -/
structure Recorder (ε : Type) where
  overrides : Visitor.Method → Bool
  failure? : Visitor.Method → List Node → Option ε

namespace Recorder

variable {ε : Type}

def visit (recorder : Recorder ε) (visit : Visit) : Recording ε Unit := fun log =>
  if recorder.overrides visit.method then
    let recorded := log ++ [visit.node]
    match recorder.failure? visit.method recorded with
    | some error => (.error error, recorded)
    | none => (.ok (), recorded)
  else (.ok (), log)

def visitor (recorder : Recorder ε) : Visitor (Recording ε) :=
  .visiting recorder.visit

def FailsWith (recorder : Recorder ε) (front : List Visit) (last : Visit) (error : ε) : Prop :=
  recorder.failure? last.method ((front ++ [last]).map Visit.node) = some error

def NoneFails (recorder : Recorder ε) (visits : List Visit) : Prop :=
  ∀ front last error, front ++ [last] <+: visits → ¬recorder.FailsWith front last error

end Recorder

namespace Node

theorem siblingsInduction {motive : List Node → Prop} (nil : motive [])
    (cons : ∀ node others, motive node.children → motive others → motive (node :: others)) :
    ∀ nodes, motive nodes :=
  forestInduction nil (fun children => cons (.document children))
    (fun content others => cons (.text content) others nil)
    (fun header children => cons (.loop header children))
    (fun elements others => cons (.echo elements) others nil)

theorem find?_inside (node : Node) (others : List Node) (next : Nat) (deeper : List Nat) :
    find? (node :: others) (0 :: next :: deeper) = find? node.children (next :: deeper) :=
  rfl

theorem find?_behind (node : Node) (others : List Node) (index : Nat) (deeper : List Nat) :
    find? (node :: others) ((index + 1) :: deeper) = find? others (index :: deeper) := by
  cases deeper <;> rfl

def later : List Nat → List Nat
  | [] => []
  | index :: below => (index + 1) :: below

theorem later_eq_cons_iff {address below : List Nat} {index : Nat} :
    later address = index :: below ↔
      ∃ previous, index = previous + 1 ∧ address = previous :: below := by
  cases address <;> simp [later, eq_comm]

theorem later_lt_later {left right : List Nat} (smaller : left < right) :
    later left < later right := by
  cases left with
  | nil =>
      cases right with
      | nil => exact smaller
      | cons index below => exact List.nil_lt_cons _ _
  | cons first _ =>
      cases right with
      | nil => exact absurd smaller (List.not_lt_nil _)
      | cons second _ =>
          rw [List.cons_lt_cons_iff] at smaller
          refine List.cons_lt_cons_iff.mpr ?_
          exact smaller.imp Nat.succ_lt_succ (And.imp_left (congrArg Nat.succ))

namespace Locates

variable {node : Node} {siblings others nodes below behind : List Node}
  {addresses own rest : List (List Nat)}

theorem ne_nil (locates : Locates siblings addresses nodes) {address : List Nat}
    (member : address ∈ addresses) : address ≠ [] := by
  rintro rfl
  have found := (locates.complete []).mp member
  cases found

theorem nil : Locates [] [] [] where
  increasing := .nil
  complete address := by
    match address with
    | [] | [_] | _ :: _ :: _ => simp [find?]
  found := rfl

theorem increasing_cons (children : Locates node.children own below)
    (rests : Locates others rest behind) :
    ([0] :: (own.map (0 :: ·) ++ rest.map later)).Pairwise (· < ·) := by
  have behindOwn : ∀ address ∈ rest, ∀ deeper, 0 :: deeper < later address := by
    intro address member deeper
    obtain ⟨index, more, rfl⟩ := List.exists_cons_of_ne_nil (rests.ne_nil member)
    exact List.cons_lt_cons_iff.mpr (Or.inl (Nat.succ_pos index))
  simp only [List.pairwise_cons, List.pairwise_append, List.pairwise_map, List.mem_append,
    List.mem_map]
  refine ⟨?_, ?_, rests.increasing.imp later_lt_later, ?_⟩
  · rintro _ (⟨address, member, rfl⟩ | ⟨address, member, rfl⟩)
    · obtain ⟨index, more, rfl⟩ := List.exists_cons_of_ne_nil (children.ne_nil member)
      exact List.cons_lt_cons_iff.mpr (Or.inr ⟨rfl, List.nil_lt_cons _ _⟩)
    · exact behindOwn address member []
  · exact children.increasing.imp fun smaller =>
      List.cons_lt_cons_iff.mpr (Or.inr ⟨rfl, smaller⟩)
  · rintro _ ⟨deeper, -, rfl⟩ _ ⟨address, member, rfl⟩
    exact behindOwn address member deeper

theorem cons (children : Locates node.children own below) (rests : Locates others rest behind) :
    Locates (node :: others) ([0] :: (own.map (0 :: ·) ++ rest.map later))
      (node :: (below ++ behind)) where
  increasing := increasing_cons children rests
  complete address := by
    rw [List.mem_cons, List.mem_append, List.mem_map, List.mem_map]
    match address with
    | [] =>
        refine iff_of_false ?_ (by simp [find?])
        rintro (same | ⟨_, _, same⟩ | ⟨address, member, same⟩)
        · cases same
        · cases same
        · cases address with
          | nil => exact rests.ne_nil member rfl
          | cons _ _ => cases same
    | [0] => simp [find?]
    | 0 :: next :: deeper =>
        rw [find?_inside, ← children.complete]
        simp [later_eq_cons_iff]
    | (index + 1) :: deeper =>
        rw [find?_behind, ← rests.complete]
        simp [later_eq_cons_iff]
  found := by
    have inside : own.map (find? (node :: others) ∘ (0 :: ·)) = below.map some := by
      rw [← children.found]
      refine List.map_congr_left fun address member => ?_
      obtain ⟨next, deeper, rfl⟩ := List.exists_cons_of_ne_nil (children.ne_nil member)
      exact find?_inside node others next deeper
    have behind' : rest.map (find? (node :: others) ∘ later) = behind.map some := by
      rw [← rests.found]
      refine List.map_congr_left fun address member => ?_
      obtain ⟨index, deeper, rfl⟩ := List.exists_cons_of_ne_nil (rests.ne_nil member)
      exact find?_behind node others index deeper
    rw [List.map_cons, List.map_append, List.map_map, List.map_map, inside, behind', List.map_cons,
      List.map_append]
    rfl

end Locates

theorem exists_locates_forest (siblings : List Node) :
    ∃ addresses, Locates siblings addresses (forest siblings) := by
  induction siblings using siblingsInduction with
  | nil => exact ⟨[], forest_nil ▸ .nil⟩
  | cons node others ihChildren ihOthers =>
      obtain ⟨own, children⟩ := ihChildren
      obtain ⟨rest, rests⟩ := ihOthers
      exact ⟨_, forest_cons node others ▸ children.cons rests⟩

section

variable {m : Type → Type} [Monad m] [LawfulMonad m]

theorem walk_visiting (visit : Visit → m Unit) (node : Node) :
    node.walk (.visiting visit) =
      visit ⟨node.method, node⟩ >>= fun _ => walkAll (.visiting visit) node.children := by
  cases node with
  | document children => rfl
  | text content => exact (bind_pure _).symm
  | loop header children => rfl
  | echo elements => exact (bind_pure _).symm

theorem walkAll_visiting (visit : Visit → m Unit) (nodes : List Node) :
    walkAll (.visiting visit) nodes = ((forest nodes).flatMap visits).forM visit := by
  induction nodes using siblingsInduction with
  | nil => rfl
  | cons node others ihChildren ihOthers =>
      have child : (Visitor.visiting visit).child node (node.walk (.visiting visit)) =
          visit ⟨.child, node⟩ >>= fun _ => node.walk (.visiting visit) := rfl
      rw [walkAll, child, walk_visiting, ihChildren, ihOthers, forest_cons, List.flatMap_cons,
        List.flatMap_append, visits]
      simp only [List.cons_append, List.nil_append, List.forM_eq_forM, List.forM_cons,
        List.forM_append, bind_assoc]

end

end Node

theorem Document.walk_visiting {m : Type → Type} [Monad m] [LawfulMonad m] (visit : Visit → m Unit)
    (document : Document) : document.walk (.visiting visit) = document.visits.forM visit := by
  rw [walk, Node.walk_visiting, Node.walkAll_visiting]
  rfl

namespace Recorder

variable {ε : Type} {recorder : Recorder ε} {seen : List Visit} {last : Visit}

theorem run_visit_of_inherits (inherits : recorder.overrides last.method = false)
    (log : List Node) : (recorder.visit last).run log = (.ok (), log) := by
  simp only [visit, ExceptT.run, inherits, Bool.false_eq_true, ↓reduceIte]

theorem run_visit_of_overrides (own : recorder.overrides last.method = true) (log : List Node) :
    (recorder.visit last).run log =
      match recorder.failure? last.method (log ++ [last.node]) with
      | some error => (.error error, log ++ [last.node])
      | none => (.ok (), log ++ [last.node]) := by
  simp only [visit, ExceptT.run, own, ↓reduceIte]

theorem noneFails_nil : recorder.NoneFails [] := by
  intro front last error short
  simp at short

theorem NoneFails.concat (quiet : recorder.NoneFails seen)
    (passes : recorder.failure? last.method ((seen ++ [last]).map Visit.node) = none) :
    recorder.NoneFails (seen ++ [last]) := by
  intro front final error short fails
  rcases List.prefix_concat_iff.mp short with whole | shorter
  · obtain ⟨rfl, same⟩ := List.append_inj' whole rfl
    obtain rfl := List.singleton_inj.mp same
    rw [FailsWith, passes] at fails
    cases fails
  · exact quiet front final error shorter fails

theorem run_forM_visit (visits : List Visit) (quiet : recorder.NoneFails seen) :
    let due := seen ++ visits.filter (recorder.overrides ·.method)
    let run := (visits.forM recorder.visit).run (seen.map Visit.node)
    (recorder.NoneFails due ∧ run = (.ok (), due.map Visit.node)) ∨
      ∃ front last error, front ++ [last] <+: due ∧ recorder.NoneFails front ∧
        recorder.FailsWith front last error ∧
        run = (.error error, (front ++ [last]).map Visit.node) := by
  -- The visits so far have not failed, which the induction carries along with their log.
  induction visits generalizing seen with
  | nil =>
      refine Or.inl ⟨by simpa using quiet, ?_⟩
      rw [List.filter_nil, List.append_nil]
      rfl
  | cons visit others ih =>
      intro due run
      have first : run = match (recorder.visit visit).run (seen.map Visit.node) with
          | (.ok (), log) => (others.forM recorder.visit).run log
          | (.error error, log) => (.error error, log) := by
        refine (run_bind (recorder.visit visit) (fun _ => others.forM recorder.visit) _).trans ?_
        rcases (recorder.visit visit).run (seen.map Visit.node) with ⟨_ | _, _⟩ <;> rfl
      cases own : recorder.overrides visit.method with
      | false =>
          rw [run_visit_of_inherits own] at first
          have same : due = seen ++ others.filter (recorder.overrides ·.method) := by
            simp only [due, List.filter_cons, own, Bool.false_eq_true, ↓reduceIte]
          rw [same, first]
          exact ih quiet
      | true =>
          rw [run_visit_of_overrides own, ← List.map_singleton (f := Visit.node),
            ← List.map_append] at first
          have same : due = seen ++ [visit] ++ others.filter (recorder.overrides ·.method) := by
            simp only [due, List.filter_cons, own, ↓reduceIte, List.append_assoc,
              List.singleton_append]
          cases verdict : recorder.failure? visit.method ((seen ++ [visit]).map Visit.node) with
          | some error =>
              rw [verdict] at first
              exact Or.inr ⟨seen, visit, error, ⟨_, same.symm⟩, quiet, verdict, first⟩
          | none =>
              rw [verdict] at first
              rw [same, first]
              exact ih (quiet.concat verdict)

theorem filter_visits_of_inherits_child (inherits : recorder.overrides .child = false)
    (nodes : List Node) :
    ((nodes.flatMap Node.visits).filter (recorder.overrides ·.method)).map Visit.node =
      nodes.filter fun node => recorder.overrides node.method := by
  induction nodes with
  | nil => rfl
  | cons node others ih =>
      rw [List.flatMap_cons, List.filter_append, List.map_append, ih, Node.visits]
      cases own : recorder.overrides node.method <;> simp [inherits, own]

theorem filter_visits_of_overrides_child
    (onlyChild : ∀ method, recorder.overrides method = true ↔ method = .child)
    (nodes : List Node) :
    ((nodes.flatMap Node.visits).filter (recorder.overrides ·.method)).map Visit.node = nodes := by
  induction nodes with
  | nil => rfl
  | cons node others ih =>
      have kind : node.method ≠ .child := by cases node <;> simp [Node.method]
      rw [List.flatMap_cons, List.filter_append, List.map_append, ih, Node.visits]
      simp [onlyChild, kind]

end Recorder

def Node.leaves (nodes : List Node) : List Node :=
  nodes.filter (!·.isContainer)

theorem Node.leaves_forest_cons (node : Node) (others : List Node) :
    leaves (forest (node :: others)) =
      leaves [node] ++ (leaves (forest node.children) ++ leaves (forest others)) := by
  rw [forest_cons, ← List.singleton_append, leaves, List.filter_append, List.filter_append]
  rfl

abbrev Writing := StateM (List (Node × String))

namespace Writing

def put (node : Node) (text : String) : Writing Unit :=
  modify (· ++ [(node, text)])

def writer : Visitor Writing where
  document := fun _ walkChildren => walkChildren
  text := fun content => put (.text content) content
  loop := fun header children walkChildren => do
    put (.loop header children) header.written
    walkChildren
    put (.loop header children) "\x7b$END$\x7d"
  echo := fun elements => put (.echo elements) (Node.echo elements).written

/-- An action writes a text, with these leaves among the nodes that the parts come from. -/
def Emits (action : Writing Unit) (text : String) (leaves : List Node) : Prop :=
  ∃ parts, (∀ log, action.run log = ((), log ++ parts)) ∧
    String.join (parts.map Prod.snd) = text ∧ Node.leaves (parts.map Prod.fst) = leaves

theorem emits_pure : Emits (pure ()) "" [] :=
  ⟨[], fun log => by rw [List.append_nil]; rfl, rfl, rfl⟩

theorem emits_put (node : Node) (text : String) : Emits (put node text) text (Node.leaves [node]) :=
  ⟨[(node, text)], fun _ => rfl, by simp, rfl⟩

theorem Emits.bind {first second : Writing Unit} {front back : String}
    {before after : List Node} (one : Emits first front before) (other : Emits second back after) :
    Emits (first >>= fun _ => second) (front ++ back) (before ++ after) := by
  obtain ⟨parts, ran, rfl, rfl⟩ := one
  obtain ⟨others, ranOthers, rfl, rfl⟩ := other
  refine ⟨parts ++ others, fun log => ?_, ?_, ?_⟩
  · change second.run (first.run log).2 = _
    rw [ran, ranOthers, List.append_assoc]
  · rw [List.map_append, String.join_append]
  · rw [List.map_append, Node.leaves, List.filter_append]
    rfl

end Writing

open Writing (Emits emits_pure emits_put writer)

theorem Node.emits_walkAll (nodes : List Node) :
    Emits (walkAll writer nodes) (writtenAll nodes) (leaves (forest nodes)) := by
  induction nodes using forestInduction with
  | nil => exact forest_nil ▸ emits_pure
  | document children others ihChildren ihOthers =>
      rw [leaves_forest_cons, writtenAll, written]
      exact ihChildren.bind ihOthers
  | text content others ih =>
      have leaf := (emits_put (.text content) content).bind ih
      rw [leaves_forest_cons, writtenAll, written]
      exact leaf
  | loop header children others ihChildren ihOthers =>
      have opening := emits_put (.loop header children) header.written
      have closing := emits_put (.loop header children) "\x7b$END$\x7d"
      have whole := (opening.bind (ihChildren.bind closing)).bind ihOthers
      have container : leaves [.loop header children] = [] := rfl
      rw [leaves_forest_cons, writtenAll, written]
      simp only [container, List.nil_append, List.append_nil, String.append_assoc] at whole ⊢
      exact whole
  | echo elements others ih =>
      rw [leaves_forest_cons, writtenAll]
      exact (emits_put (.echo elements) (Node.echo elements).written).bind ih

namespace Document

variable {ε : Type} {recorder : Recorder ε}

theorem due_of_inherits_child (document : Document)
    (inherits : recorder.overrides .child = false) :
    (document.visits.filter (recorder.overrides ·.method)).map Visit.node =
      document.toNode.subtree.filter fun node => recorder.overrides node.method := by
  have below := recorder.filter_visits_of_inherits_child inherits document.nodes
  have subtree : document.toNode.subtree = document.toNode :: document.nodes :=
    document.toNode.subtree_eq
  rw [subtree, visits, List.filter_cons, List.filter_cons, apply_ite (List.map Visit.node),
    List.map_cons, below]
  rfl

theorem due_of_overrides_child (document : Document)
    (onlyChild : ∀ method, recorder.overrides method = true ↔ method = .child) :
    document.toNode :: (document.visits.filter (recorder.overrides ·.method)).map Visit.node =
      document.toNode.subtree := by
  have below := recorder.filter_visits_of_overrides_child onlyChild document.nodes
  have subtree : document.toNode.subtree = document.toNode :: document.nodes :=
    document.toNode.subtree_eq
  rw [subtree, visits, List.filter_cons_of_neg (by simp [onlyChild]), below]

theorem exists_locates_subtree (document : Document) :
    ∃ addresses, Node.Locates [document.toNode] addresses document.toNode.subtree := by
  have forest : Node.forest [document.toNode] = document.toNode.subtree := by
    rw [Node.forest, Node.forest_nil, List.append_nil]
  exact forest ▸ Node.exists_locates_forest [document.toNode]

theorem walk_recorder (recorder : Recorder ε) (document : Document) :
    let due := document.visits.filter (recorder.overrides ·.method)
    let run := (document.walk recorder.visitor).run []
    (recorder.NoneFails due ∧ run = (.ok (), due.map Visit.node)) ∨
      ∃ front last error, front ++ [last] <+: due ∧ recorder.NoneFails front ∧
        recorder.FailsWith front last error ∧
        run = (.error error, (front ++ [last]).map Visit.node) := by
  intro due run
  have walked : run = (document.visits.forM recorder.visit).run [] := by
    simp only [run, Recorder.visitor, walk_visiting]
  rw [walked]
  exact Recorder.run_forM_visit document.visits Recorder.noneFails_nil

/-- A walk with a recorder records nodes in the order of the document, a node before its children
and siblings as they are stored, and each of them once if it has methods for kinds of nodes. -/
theorem walk_records (recorder : Recorder ε) (document : Document) :
    let run := (document.walk recorder.visitor).run []
    let due := document.visits.filter (recorder.overrides ·.method)
    run.2 <+: due.map Visit.node ∧
    ((recorder.NoneFails due ∧ run = (.ok (), due.map Visit.node)) ∨
      ∃ front last error, front ++ [last] <+: due ∧ recorder.NoneFails front ∧
        recorder.FailsWith front last error ∧
        run = (.error error, (front ++ [last]).map Visit.node)) ∧
    (recorder.overrides .child = false →
      due.map Visit.node =
        document.toNode.subtree.filter fun node => recorder.overrides node.method) ∧
    ((∀ method, recorder.overrides method = true ↔ method = .child) →
      document.toNode :: due.map Visit.node = document.toNode.subtree) ∧
    (∃ addresses, Node.Locates [document.toNode] addresses document.toNode.subtree) ∧
    Emits (document.walk writer) document.written (Node.leaves document.toNode.subtree) := by
  intro run due
  have outcome := walk_recorder recorder document
  refine ⟨?_, outcome, document.due_of_inherits_child, document.due_of_overrides_child,
    document.exists_locates_subtree, ?_⟩
  · rcases outcome with ⟨-, ran⟩ | ⟨front, last, error, short, -, -, ran⟩
    · exact (congrArg Prod.snd ran).symm ▸ List.prefix_rfl
    · exact (congrArg Prod.snd ran).symm ▸ short.map Visit.node
  · have leaves : Node.leaves document.toNode.subtree = Node.leaves document.nodes := by
      rw [Node.subtree_eq]
      rfl
    rw [leaves]
    exact Node.emits_walkAll document.children

def nestedEcho : Document :=
  ⟨[.text "a",
    .document [.loop ⟨"i", .integer 0, .integer 1, none⟩ [.echo [.variable "i"], .text "b"]],
    .text "c"]⟩

def echoStop : Recorder String where
  overrides method := method != .child
  failure? method _ := if method = .echo then some "echo" else none

def thirdStop : Recorder String where
  overrides method := method == .child
  failure? _ log := if log.length = 3 then some "third" else none

theorem walk_records_nestedEcho :
    echoStop.overrides .child = false ∧
      ((nestedEcho.walk echoStop.visitor).run []).1 = .error "echo" ∧
      ((nestedEcho.walk echoStop.visitor).run []).2 <+: nestedEcho.toNode.subtree ∧
      (∀ method, thirdStop.overrides method = true ↔ method = .child) ∧
      ((nestedEcho.walk thirdStop.visitor).run []).1 = .error "third" ∧
      nestedEcho.toNode :: ((nestedEcho.walk thirdStop.visitor).run []).2 <+:
        nestedEcho.toNode.subtree := by
  have onlyChild : ∀ method, thirdStop.overrides method = true ↔ method = .child := by
    simp [thirdStop]
  obtain ⟨early, -, everyKind, -, -, -⟩ := walk_records echoStop nestedEcho
  obtain ⟨earlyChild, -, -, everyChild, -, -⟩ := walk_records thirdStop nestedEcho
  refine ⟨rfl, rfl, ?_, onlyChild, rfl, ?_⟩
  · rw [everyKind rfl] at early
    exact early
  · rw [← everyChild onlyChild]
    exact (List.prefix_cons_inj _).mpr earlyChild

end Document

end TagTemplate
