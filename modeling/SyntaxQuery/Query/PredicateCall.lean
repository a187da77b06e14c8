import SyntaxQuery.Query.Fault
import SyntaxQuery.Query.Pattern
import SyntaxQuery.Query.TextPredicate
import SyntaxQuery.Regex.Compile

/-! Predicates written in a query. Those on text are kept; settings and properties are checked for
their arguments and otherwise ignored, as are predicates of other names. -/
namespace SyntaxQuery.Query.TextPredicate

def nameOf (captures : List String) (index : Nat) : String := captures[index]?.getD ""

def comparison? (name base : String) : Option (Bool × Bool) :=
  if name = base then some (true, true)
  else if name = "not-" ++ base then some (false, true)
  else if name = "any-" ++ base then some (true, false)
  else if name = "any-not-" ++ base then some (false, false)
  else none

def compareText (arguments : List Argument) (positive all : Bool) :
    Except PredicateDefect TextPredicate :=
  match arguments with
  | [.capture left, .capture right] => .ok (.sameText left right positive all)
  | [.capture capture, .text value] => .ok (.equals capture (Bytes.ofString value) positive all)
  | [.text literal, _] => .error (.literalFirst "#eq?" literal)
  | _ => .error (.argumentCount "#eq?" "2" arguments.length)

def searchText (captures : List String) (arguments : List Argument) (positive all : Bool) :
    Except PredicateDefect TextPredicate :=
  match arguments with
  | [.capture capture, .text pattern] =>
    match Regex.ofPattern pattern with
    | .ok regex => .ok (.search capture regex positive all)
    | .error _ => .error (.badRegex pattern)
  | [.capture _, .capture other] => .error (.captureSecond "#match?" (nameOf captures other))
  | [.text literal, _] => .error (.literalFirst "#match?" literal)
  | _ => .error (.argumentCount "#match?" "2" arguments.length)

def chooseText (captures : List String) (arguments : List Argument) (positive : Bool) :
    Except PredicateDefect TextPredicate :=
  match arguments with
  | [] => .error (.argumentCount "#any-of?" "at least 1" 0)
  | .text literal :: _ => .error (.literalFirst "#any-of?" literal)
  | .capture capture :: others => do
    let literals ← others.mapM fun
      | .text value => .ok (Bytes.ofString value)
      | .capture other => .error (.captureAmongLiterals "#any-of?" (nameOf captures other))
    return .among capture literals positive

def checkProperty (captures : List String) (name : String) (arguments : List Argument) :
    Except PredicateDefect Unit :=
  let rec check (hasCapture : Bool) (texts : Nat) : List Argument → Except PredicateDefect Unit
    | [] => if texts = 0 then .error (.keyMissing name) else .ok ()
    | .capture index :: rest =>
      if hasCapture then .error (.secondCapture name (nameOf captures index))
      else check true texts rest
    | .text value :: rest =>
      if texts = 2 then .error (.thirdArgument name value) else check hasCapture (texts + 1) rest
  if arguments.isEmpty ∨ 3 < arguments.length then
    .error (.argumentCount name "1 to 3" arguments.length)
  else check false 0 arguments

/-- The predicate that a call stands for, if it is one on text. -/
def ofCall (captures : List String) (call : PredicateCall) :
    Except PredicateDefect (Option TextPredicate) :=
  match comparison? call.name "eq?", comparison? call.name "match?" with
  | some (positive, all), _ => some <$> compareText call.arguments positive all
  | none, some (positive, all) => some <$> searchText captures call.arguments positive all
  | none, none =>
    if call.name = "any-of?" ∨ call.name = "not-any-of?" then
      some <$> chooseText captures call.arguments (call.name == "any-of?")
    else if ["set!", "is?", "is-not?"].contains call.name then
      (fun _ => none) <$> checkProperty captures call.name call.arguments
    else .ok none

end SyntaxQuery.Query.TextPredicate
