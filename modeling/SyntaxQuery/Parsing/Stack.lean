import SyntaxQuery.Parsing.Fragment

/-! The parser's stacks. Where a text can be read in several ways each way is a version of the stack;
versions share what they have in common, so the stacks form a graph whose nodes lead down by one or
more links. -/
namespace SyntaxQuery.Parsing

/-- What lies between a node and one below it. No fragment marks the place of an error. -/
structure Link where
  below : Nat
  fragment : Option Fragment
deriving Inhabited

structure StackNode where
  state : Nat
  position : Length
  links : List Link
  cost : Nat
  nodeCount : Nat
  favor : Int
deriving Inhabited

inductive Status where
  | active
  /-- The version cannot take the token and waits whether others can. -/
  | paused (ahead : Fragment)
  | halted
deriving Inhabited

structure Waypoint where
  position : Length
  depth : Nat
  state : Nat
deriving Inhabited

structure Head where
  node : Nat
  /-- The node count when the last error was met. -/
  countAtError : Nat
  status : Status
  waypoints : Option (List Waypoint)
deriving Inhabited

structure Stack where
  nodes : Array StackNode
  heads : Array Head
deriving Inhabited

namespace Stack

def new : Stack :=
  ⟨#[⟨Automaton.start, .zero, [], 0, 0, 0⟩], #[⟨0, 0, .active, none⟩]⟩

def count (stack : Stack) : Nat := stack.heads.size

def top (stack : Stack) (version : Nat) : StackNode := stack.nodes[stack.heads[version]!.node]!

def state (stack : Stack) (version : Nat) : Nat := (stack.top version).state

def position (stack : Stack) (version : Nat) : Length := (stack.top version).position

def isActive (stack : Stack) (version : Nat) : Bool :=
  match stack.heads[version]!.status with
  | .active => true
  | _ => false

def isHalted (stack : Stack) (version : Nat) : Bool :=
  match stack.heads[version]!.status with
  | .halted => true
  | _ => false

def paused? (stack : Stack) (version : Nat) : Option Fragment :=
  match stack.heads[version]!.status with
  | .paused ahead => some ahead
  | _ => none

def setStatus (stack : Stack) (version : Nat) (status : Status) : Stack :=
  { stack with heads := stack.heads.modify version fun head => { head with status := status } }

/-- An error that nothing has been skipped for yet costs as much as going on after it. -/
def cost (stack : Stack) (version : Nat) : Nat :=
  let node := stack.top version
  let isOpen := node.state == Automaton.lost && ((node.links.head?).any (·.fragment.isNone))
  node.cost + if (stack.paused? version).isSome || isOpen then price.recovery else 0

def favor (stack : Stack) (version : Nat) : Int := (stack.top version).favor

/-- How many nodes have been made since the last error. -/
def progress (stack : Stack) (version : Nat) : Nat :=
  (stack.top version).nodeCount - stack.heads[version]!.countAtError

def isLost (stack : Stack) (version : Nat) : Bool :=
  (stack.paused? version).isSome || stack.state version == Automaton.lost

def nodeAbove (stack : Stack) (below : Nat) (fragment : Option Fragment) (state : Nat) : StackNode :=
  let base := stack.nodes[below]!
  match fragment with
  | some f =>
    ⟨state, base.position ++ f.total, [⟨below, fragment⟩], base.cost + f.cost,
      base.nodeCount + f.nodeCount, base.favor + f.facts.favor⟩
  | none => ⟨state, base.position, [⟨below, none⟩], base.cost, base.nodeCount, base.favor⟩

def push (stack : Stack) (version : Nat) (fragment : Option Fragment) (state : Nat) : Stack :=
  let node := stack.nodeAbove stack.heads[version]!.node fragment state
  { nodes := stack.nodes.push node
    heads := stack.heads.modify version fun head =>
      { head with
        node := stack.nodes.size
        countAtError := if fragment.isNone then node.nodeCount else head.countAtError } }

def pushAll (stack : Stack) (version : Nat) (fragments : List Fragment) (state : Nat) : Stack :=
  fragments.foldl (fun stack fragment => stack.push version (some fragment) state) stack

def remove (stack : Stack) (version : Nat) : Stack :=
  { stack with heads := stack.heads.eraseIdxIfInBounds version }

/-- A version on the same node; it has no waypoints. -/
def fork (stack : Stack) (version node : Nat) : Stack :=
  let head := stack.heads[version]!
  { stack with heads := stack.heads.push ⟨node, head.countAtError, .active, none⟩ }

def copy (stack : Stack) (version : Nat) : Stack :=
  { stack with heads := stack.heads.push { stack.heads[version]! with waypoints := none } }

/-- Puts a later version in the place of an earlier one, whose waypoints it takes over. -/
def renumber (stack : Stack) (source target : Nat) : Stack :=
  if source = target then stack
  else
    let moved := stack.heads[source]!
    let waypoints := moved.waypoints.or stack.heads[target]!.waypoints
    { stack with
      heads := (stack.heads.set! target { moved with waypoints := waypoints }).eraseIdxIfInBounds
        source }

def swap (stack : Stack) (a b : Nat) : Stack :=
  { stack with heads := stack.heads.swapIfInBounds a b }

/-! Merging. -/

def isLike (a b : Option Fragment) : Bool :=
  match a, b with
  | none, none => true
  | some a, some b =>
    a.part == b.part &&
      ((0 < a.cost && 0 < b.cost) ||
        (a.facts.padding.bytes == b.facts.padding.bytes &&
          a.facts.size.bytes == b.facts.size.bytes &&
          a.children.length == b.children.length && a.isExtra == b.isExtra))
  | _, _ => false

def linkFavor (stack : Stack) (link : Link) : Int :=
  stack.nodes[link.below]!.favor + ((link.fragment.map (·.facts.favor)).getD 0)

def linkCount (stack : Stack) (link : Link) : Nat :=
  stack.nodes[link.below]!.nodeCount + ((link.fragment.map (·.nodeCount)).getD 0)

def raiseFavor (stack : Stack) (node : Nat) (favor : Int) : Stack :=
  { stack with nodes := stack.nodes.modify node fun n => { n with favor := max n.favor favor } }

/-- The most ways down from a node. -/
def widest : Nat := 8

/-- Adds a way down. A way like one that exists is not added; what lies below it is added below that
one. -/
def addLink : Nat → Nat → Link → Stack → Stack
  | 0, _, _, stack => stack
  | fuel + 1, node, link, stack =>
    if link.below = node then stack
    else
      let below := stack.nodes[link.below]!
      let alike := stack.nodes[node]!.links.filter fun existing =>
        isLike existing.fragment link.fragment
      let mergeable := alike.find? fun existing =>
        existing.below == link.below ||
          (let other := stack.nodes[existing.below]!
           other.state == below.state && other.position.bytes == below.position.bytes &&
             other.cost == below.cost)
      match mergeable with
      | some existing =>
        if existing.below = link.below then
          if ((existing.fragment.map (·.facts.favor)).getD 0) <
              ((link.fragment.map (·.facts.favor)).getD 0) then
            { stack with nodes := stack.nodes.modify node fun n =>
                { n with
                  links := n.links.map fun l =>
                    if l.below = link.below ∧ isLike l.fragment link.fragment then link else l
                  favor := stack.linkFavor link } }
          else stack
        else
          let merged := below.links.foldl
            (fun stack lower => addLink fuel existing.below lower stack) stack
          merged.raiseFavor node (merged.linkFavor link)
      | none =>
        if widest ≤ stack.nodes[node]!.links.length then stack
        else
          let count := stack.linkCount link
          let favor := stack.linkFavor link
          { stack with nodes := stack.nodes.modify node fun n =>
              { n with
                links := n.links ++ [link]
                nodeCount := max n.nodeCount count
                favor := max n.favor favor } }

def canMerge (stack : Stack) (a b : Nat) : Bool :=
  let one := stack.top a
  let two := stack.top b
  stack.isActive a && stack.isActive b && one.state == two.state &&
    one.position.bytes == two.position.bytes && one.cost == two.cost

/-- Merges a version into another if both are in the same state at the same place. -/
def merge? (stack : Stack) (a b : Nat) : Option Stack :=
  if stack.canMerge a b then
    let node := stack.heads[a]!.node
    let merged := (stack.top b).links.foldl (fun stack link =>
      addLink stack.nodes.size node link stack) stack
    let merged :=
      if (merged.top a).state = Automaton.lost then
        { merged with heads := merged.heads.modify a fun head =>
            { head with countAtError := (merged.top a).nodeCount } }
      else merged
    some (merged.remove b)
  else none

/-! Going down. -/

/-- A way down from a version: the fragments on it, the lowest first, and how many of them are not
extras. -/
structure Descent where
  node : Nat
  fragments : List Fragment
  count : Nat

def Descent.follow (descent : Descent) (link : Link) : Descent :=
  match link.fragment with
  | some f => ⟨link.below, f :: descent.fragments, descent.count + if f.isExtra then 0 else 1⟩
  | none => ⟨link.below, descent.fragments, descent.count + 1⟩

/-- The descents that end, in order; `decide` says whether one ends and whether it goes on. -/
def descend (stack : Stack) (decide : Descent → Bool × Bool) : Nat → List Descent → List Descent
  | 0, _ => []
  | _, [] => []
  | fuel + 1, descents =>
    let ended := descents.filter fun d => (decide d).1
    let going := descents.filter fun d => (decide d).2
    let links (d : Descent) : List Link := stack.nodes[d.node]!.links
    let firsts := going.flatMap fun d => ((links d).head?.map d.follow).toList
    let others := going.flatMap fun d => (links d).tail.map d.follow
    ended ++ descend stack decide fuel (firsts ++ others)

def descents (stack : Stack) (version : Nat) (decide : Descent → Bool × Bool) : List Descent :=
  stack.descend decide (stack.nodes.size + 1) [⟨stack.heads[version]!.node, [], 0⟩]

/-- The versions that descents from a version lead to, each with its fragments. Descents to one node
share a version. -/
def land (stack : Stack) (version : Nat) (found : List Descent) :
    List (Nat × List (List Fragment)) × Stack :=
  let nodes := (found.map (·.node)).eraseDups
  let slices := nodes.zipIdx.map fun (node, i) =>
    (stack.count + i, (found.filter (·.node == node)).map (·.fragments))
  (slices, nodes.foldl (fun stack node => stack.fork version node) stack)

/-- Goes down by a number of fragments, not counting extras. -/
def popCount (stack : Stack) (version count : Nat) : List (Nat × List (List Fragment)) × Stack :=
  stack.land version (stack.descents version fun d => (d.count == count, d.count != count))

def popAll (stack : Stack) (version : Nat) : List (List Fragment) :=
  (stack.descents version fun d => (stack.nodes[d.node]!.links.isEmpty, true)).map (·.fragments)

/-- The error on top of a version, if there is one, and the version without it. -/
def popError (stack : Stack) (version : Nat) : Option Fragment × Stack :=
  let found := (stack.top version).links.find? fun link => link.fragment.any (·.isError)
  match found with
  | some link =>
    (link.fragment, { stack with heads := stack.heads.modify version fun head =>
      { head with node := link.below, status := .active } })
  | none => (none, stack)

def horizon : Nat := 16

/-- Notes the states that a version has come through. -/
def survey (stack : Stack) (version : Nat) : Stack :=
  let visited := stack.descents version fun d => (d.count ≤ horizon, d.count ≤ horizon)
  let waypoints := visited.foldl (fun (found : List Waypoint) d =>
    let node := stack.nodes[d.node]!
    if found.any fun w => w.depth == d.count && w.state == node.state then found
    else found ++ [⟨node.position, d.count, node.state⟩]) []
  { stack with heads := stack.heads.modify version fun head =>
      { head with waypoints := some waypoints } }

end Stack

end SyntaxQuery.Parsing
