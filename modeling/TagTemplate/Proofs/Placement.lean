import TagTemplate.Document.Parsing

/-!
Where tokens stand. The parser goes by their kinds, and places only tell where its errors point.
-/

namespace TagTemplate

def Position.unplaced : Position → Position
  | .loopVariable _ => .loopVariable (.point 0)
  | .loopBounds _ name reversedBounds => .loopBounds (.point 0) name reversedBounds
  | .endOfEndTag _ => .endOfEndTag (.point 0)
  | position => position

def OpenLoop.unplaced (loop : OpenLoop) : OpenLoop :=
  { loop with span := .point 0 }

@[simp] theorem OpenLoop.unplaced_unplaced (loop : OpenLoop) :
    loop.unplaced.unplaced = loop.unplaced :=
  rfl

namespace Draft

/-- The same draft without the places of its tokens. -/
def unplaced (draft : Draft) : Draft :=
  ⟨draft.position.unplaced, draft.reversedNodes, draft.openLoops.map OpenLoop.unplaced⟩

def unplacedResult (result : Except ParseError Draft) : Except ParseError.Cause Draft :=
  (result.mapError ParseError.cause).map unplaced

@[simp] theorem unplacedResult_ok (draft : Draft) :
    unplacedResult (.ok draft) = .ok draft.unplaced :=
  rfl

@[simp] theorem unplacedResult_error (error : ParseError) :
    unplacedResult (.error error) = .error error.cause :=
  rfl

variable (draft : Draft)

theorem unplaced_moveTo (position : Position) :
    (draft.unplaced.moveTo position.unplaced).unplaced = (draft.moveTo position).unplaced := by
  cases position <;> simp [unplaced, moveTo, Position.unplaced]

theorem unplaced_attach (node : Node) :
    (draft.unplaced.attach node).unplaced = (draft.attach node).unplaced := by
  simp [unplaced, attach]

theorem closeLoop_unplaced (word : Span) :
    unplacedResult (draft.unplaced.closeLoop (.point 0)) =
      unplacedResult (draft.closeLoop word) := by
  obtain ⟨position, nodes, loops⟩ := draft
  cases loops with
  | nil => rfl
  | cons innermost others =>
      simp [closeLoop, unplaced, OpenLoop.unplaced]

theorem finishHeader_unplaced (span other : Span) (name : String) (bounds : List Element) :
    unplacedResult (draft.unplaced.finishHeader other name bounds) =
      unplacedResult (draft.finishHeader span name bounds) := by
  have opened (header : LoopHeader) :
      (draft.unplaced.openLoop header other).unplaced = (draft.openLoop header span).unplaced := by
    simp [unplaced, openLoop, OpenLoop.unplaced]
  simp only [finishHeader]
  split
  · exact congrArg Except.ok (opened _)
  · exact congrArg Except.ok (opened _)
  · rfl

theorem step_unplaced (token : Token) :
    unplacedResult (draft.unplaced.step ⟨token.kind, .point 0⟩) =
      unplacedResult (draft.step token) := by
  obtain ⟨kind, span⟩ := token
  obtain ⟨position, nodes, loops⟩ := draft
  have moved (next : Position) :=
    congrArg (@Except.ok ParseError.Cause Draft) (unplaced_moveTo ⟨position, nodes, loops⟩ next)
  have attached (node : Node) :=
    congrArg (@Except.ok ParseError.Cause Draft) (unplaced_attach ⟨position, nodes, loops⟩ node)
  cases position with
  | content =>
      cases kind with
      | text content => exact attached _
      | startTag => exact moved .tag
      | _ => rfl
  | tag =>
      cases kind with
      | loopWord => exact moved (.loopVariable span)
      | tagName => exact moved (.echo [])
      | endWord => exact moved (.endOfEndTag span)
      | _ => rfl
  | loopVariable start =>
      cases kind with
      | «variable» name => exact moved (.loopBounds start name [])
      | _ => rfl
  | loopBounds start name reversedBounds =>
      cases kind with
      | endTag => exact finishHeader_unplaced _ _ _ _ _
      | integer _ | double _ | string _ | «variable» _ =>
          exact moved (.loopBounds start name (_ :: reversedBounds))
      | _ => rfl
  | echo reversedElements =>
      cases kind with
      | endTag => exact attached _
      | integer _ | double _ | string _ | «variable» _ | function _ | operator _ =>
          exact moved (.echo (_ :: reversedElements))
      | _ => rfl
  | endOfEndTag word =>
      cases kind with
      | endTag => exact closeLoop_unplaced _ _
      | _ => rfl

theorem finish_unplaced (endOfInput : Span) :
    (draft.unplaced.finish (.point 0)).mapError ParseError.cause =
      (draft.finish endOfInput).mapError ParseError.cause := by
  obtain ⟨position, nodes, loops⟩ := draft
  cases position <;> cases loops <;> rfl

theorem complete_congr {draft other : Draft} {tokens others : List Token}
    (alike : draft.unplaced = other.unplaced)
    (kinds : tokens.map Token.kind = others.map Token.kind) (last otherLast : Span) :
    (draft.complete last tokens).mapError ParseError.cause =
      (other.complete otherLast others).mapError ParseError.cause := by
  induction tokens generalizing draft other others last otherLast with
  | nil =>
      obtain rfl := List.map_eq_nil_iff.mp kinds.symm
      rfl
  | cons token tokens ih =>
      obtain ⟨otherToken, others, rfl, kind, later⟩ := List.map_eq_cons_iff.mp kinds.symm
      have steps : unplacedResult (draft.step token) = unplacedResult (other.step otherToken) := by
        rw [← step_unplaced draft, ← step_unplaced other, alike, kind]
      simp only [complete, kind]
      split
      · rw [← finish_unplaced draft, ← finish_unplaced other, alike]
      · cases one : draft.step token with
        | error error =>
            cases two : other.step otherToken with
            | error otherError =>
                rw [one, two] at steps
                exact congrArg Except.error (Except.error.inj steps)
            | ok otherNext => simp [one, two] at steps
        | ok next =>
            cases two : other.step otherToken with
            | error otherError => simp [one, two] at steps
            | ok otherNext =>
                rw [one, two] at steps
                exact ih (Except.ok.inj steps) later.symm _ _

end Draft

theorem Document.ofTokens_congr {tokens others : List Token}
    (kinds : tokens.map Token.kind = others.map Token.kind) :
    (ofTokens tokens).mapError ParseError.cause = (ofTokens others).mapError ParseError.cause :=
  Draft.complete_congr rfl kinds _ _

end TagTemplate
