import ProgramModel.Instr.Basic
import ProgramModel.Wire.Tagged

/-!
Kinds of nodes: what a node of a control-flow graph was made for.
-/

namespace ProgramModel

/-- What a statement node stands for. -/
inductive StmtKind where
  | assertionFailure
  | betweenJoinAndExit
  | call
  | classCastException
  | constructorInit
  | declaration
  | exceptionHandler
  | exceptionsSink
  | finallyBranch
  | methodBody
  | monitorEnter
  | monitorExit
  | outOfBound
  | returnStmt
  | skip
  | switchStmt
  | thisNotNull
  | throw
  | throwNullPointer
  deriving DecidableEq, Repr, Ord

instance : Tagged StmtKind where
  name := "statement node kind"
  all := [.assertionFailure, .betweenJoinAndExit, .call, .classCastException, .constructorInit,
    .declaration, .exceptionHandler, .exceptionsSink, .finallyBranch, .methodBody, .monitorEnter,
    .monitorExit, .outOfBound, .returnStmt, .skip, .switchStmt, .thisNotNull, .throw,
    .throwNullPointer]
  tag
    | .assertionFailure => "AssertionFailure"
    | .betweenJoinAndExit => "BetweenJoinAndExit"
    | .call => "Call"
    | .classCastException => "ClassCastException"
    | .constructorInit => "ConstructorInit"
    | .declaration => "DeclStmt"
    | .exceptionHandler => "ExceptionHandler"
    | .exceptionsSink => "ExceptionsSink"
    | .finallyBranch => "FinallyBranch"
    | .methodBody => "MethodBody"
    | .monitorEnter => "MonitorEnter"
    | .monitorExit => "MonitorExit"
    | .outOfBound => "OutOfBound"
    | .returnStmt => "ReturnStmt"
    | .skip => "Skip"
    | .switchStmt => "SwitchStmt"
    | .thisNotNull => "ThisNotNull"
    | .throw => "Throw"
    | .throwNullPointer => "ThrowNPE"
  find?_tag a := by cases a <;> rfl

/-- What the condition of a prune node is. -/
inductive PruneKind where
  | exceptionHandler
  | falseBranch
  | inBound
  | isInstance
  | methodBody
  | notNull
  | trueBranch
  deriving DecidableEq, Repr, Ord

instance : Tagged PruneKind where
  name := "prune node kind"
  all := [.exceptionHandler, .falseBranch, .inBound, .isInstance, .methodBody, .notNull,
    .trueBranch]
  tag
    | .exceptionHandler => "ExceptionHandler"
    | .falseBranch => "FalseBranch"
    | .inBound => "InBound"
    | .isInstance => "IsInstance"
    | .methodBody => "MethodBody"
    | .notNull => "NotNull"
    | .trueBranch => "TrueBranch"
  find?_tag a := by cases a <;> rfl

inductive NodeKind where
  | start
  | exit
  | stmt (kind : StmtKind)
  | join
  | prune (trueBranch : Bool) (branch : BranchKind) (kind : PruneKind)
  /-- A node that does nothing, with a comment. -/
  | skip (comment : String)
  deriving DecidableEq, Repr

/-- The forms of a node kind. -/
inductive NodeForm where
  | start
  | exit
  | stmt
  | join
  | prune
  | skip
  deriving DecidableEq, Repr

instance : Tagged NodeForm where
  name := "node kind"
  all := [.start, .exit, .stmt, .join, .prune, .skip]
  tag
    | .start => "StartNode"
    | .exit => "ExitNode"
    | .stmt => "StmtNode"
    | .join => "JoinNode"
    | .prune => "PruneNode"
    | .skip => "SkipNode"
  find?_tag a := by cases a <;> rfl

def NodeKind.text : NodeKind → String
  | start => "Start"
  | exit => "Exit"
  | stmt kind => "Stmt_" ++ Tagged.tag kind
  | join => "Join"
  | prune trueBranch _ kind =>
    "Prune (" ++ toString trueBranch ++ " branch, " ++ Tagged.tag kind ++ ")"
  | skip comment => "Skip (" ++ comment ++ ")"

def Reading.nodeKind (v : Json) : Reading NodeKind := do
  match ← formField NodeForm v "kind" "node kind" with
  | .start => return .start
  | .exit => return .exit
  | .stmt => return .stmt (← taggedField StmtKind v "stmt_kind" "node kind")
  | .join => return .join
  | .prune =>
    let trueBranch ← booleanField v "true_branch" "node kind"
    let branch ← taggedField BranchKind v "if_kind" "node kind"
    return .prune trueBranch branch (← taggedField PruneKind v "prune_kind" "node kind")
  | .skip => return .skip (← stringField v "comment" "node kind")

end ProgramModel
