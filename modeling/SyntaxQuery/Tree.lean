import SyntaxQuery.Assembly

/-! Syntax trees. -/
namespace SyntaxQuery

/-- The kind of a node. A named kind and a literal token of the same spelling are different. -/
structure Kind where
  name : String
  named : Bool
deriving Repr, DecidableEq, Inhabited

namespace Kind

def ofName (name : String) : Kind := ⟨name, true⟩

def ofToken (text : String) : Kind := ⟨text, false⟩

def error : Kind := ofName "ERROR"

end Kind

structure Label where
  kind : Kind
  /-- Whether the parser made the node up, since the grammar asks for it. -/
  missing : Bool
  /-- Whether the node may stand anywhere, as a comment does. -/
  extra : Bool
  /-- The field that the node has under its parent. -/
  field : Option String
  span : Span
deriving Repr, DecidableEq, Inhabited

def Label.isError (label : Label) : Bool := label.kind == .error

inductive Tree where
  | node (label : Label) (children : List Tree)
deriving Repr, Inhabited

namespace Tree

def label : Tree → Label
  | node label _ => label

def children : Tree → List Tree
  | node _ children => children

def descend? (tree : Tree) : List Nat → Option Tree
  | [] => some tree
  | index :: path => (tree.children[index]?).bind (·.descend? path)

end Tree

end SyntaxQuery
