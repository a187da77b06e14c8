import SyntaxQuery.Grammar.Basic
import SyntaxQuery.Parsing.Lexicon

/-! The productions of a grammar. A repetition becomes a rule of its own that joins two shorter ones;
supertypes and repetitions leave no node behind. -/
namespace SyntaxQuery.Parsing

open Grammar (Rule Rank Side)

inductive Symbol where
  | token (index : Nat)
  | rule (index : Nat)
deriving Repr, DecidableEq, Inhabited, Hashable

/-- One symbol of a production, with the kind and the field under which its node is shown. -/
structure Step where
  symbol : Symbol
  shown : Option Kind
  field : Option String
deriving Repr, Inhabited

structure Production where
  rule : Nat
  steps : Array Step
  rank : Rank
deriving Repr, Inhabited

structure Token where
  kind : Kind
  lexeme : Lexeme
  isVisible : Bool
  /-- The text of a token that looks like the language's word. -/
  keyword : Option String
deriving Repr, Inhabited

structure RuleName where
  kind : Kind
  isVisible : Bool
  /-- Whether the rule stands for a repetition. -/
  isRepetition : Bool
deriving Repr, Inhabited

/-- The first production belongs to no rule of the grammar; it is the start rule and the end. -/
structure Productions where
  tokens : Array Token
  rules : Array RuleName
  productions : Array Production
  /-- The token that keywords look like. -/
  word : Option Nat
  /-- Tokens that may stand anywhere. -/
  extras : List Nat
deriving Inhabited

namespace Productions

structure Draft where
  rules : Array RuleName
  /-- What is repeated by which rule. -/
  repetitions : List (Rule × Nat)
  productions : Array Production

abbrev Build := StateM Draft

structure Alternative where
  steps : List Step
  rank : Rank

namespace Alternative

def nothing : Alternative := ⟨[], .none⟩

def append (a b : Alternative) : Alternative := ⟨a.steps ++ b.steps, a.rank.orElse b.rank⟩

def inField (name : String) (a : Alternative) : Alternative :=
  { a with steps := a.steps.map fun step => { step with field := step.field.or (some name) } }

end Alternative

def ruleIndex? (rules : Array RuleName) (name : String) : Option Nat :=
  rules.findIdx? fun rule => rule.kind.name == name

def addRule (rule : RuleName) : Build Nat := do
  let draft ← get
  set { draft with rules := draft.rules.push rule }
  return draft.rules.size

def addProductions (rule : Nat) (alternatives : List Alternative) : Build Unit :=
  modify fun draft =>
    let added := alternatives.map fun a => (⟨rule, a.steps.toArray, a.rank⟩ : Production)
    { draft with productions := draft.productions ++ added }

def single (symbol : Symbol) (shown : Option Kind) : Alternative := ⟨[⟨symbol, shown, none⟩], .none⟩

/-- The ways to write a rule; `tokenOf` finds the token of a leaf. -/
def expand (tokenOf : Kind → Nat × Option Kind) : Rule → Build (List Alternative)
  | .nothing => return [.nothing]
  | .unseen name => return [single (.token (tokenOf (.ofName name)).1) none]
  | .child kind => do
    let (symbol, shown) ← leafOrRule kind
    return [single symbol shown]
  | .variant source kind => do return [single (← leafOrRule source).1 (some kind)]
  | .field name rule => do return (← expand tokenOf rule).map (·.inField name)
  | .seq first second => do
    let heads ← expand tokenOf first
    let tails ← expand tokenOf second
    return heads.flatMap fun head => tails.map head.append
  | .either left right => do return (← expand tokenOf left) ++ (← expand tokenOf right)
  | .many rule => do
    match (← get).repetitions.lookup rule with
    | some index => return [single (.rule index) none, .nothing]
    | none =>
      let alternatives ← expand tokenOf rule
      let index ← addRule ⟨⟨"", false⟩, false, true⟩
      let self := single (.rule index) none
      addProductions index (self.append self :: alternatives)
      modify fun draft => { draft with repetitions := (rule, index) :: draft.repetitions }
      return [self, .nothing]
  | .cluster rule => expand tokenOf rule
  | .group name rule => do
    match ruleIndex? (← get).rules name with
    | some index => return [single (.rule index) none]
    | none =>
      let index ← addRule ⟨.ofName name, false, false⟩
      let alternatives ← expand tokenOf rule
      addProductions index alternatives
      return [single (.rule index) none]
  | .ranked rank rule => do
    return (← expand tokenOf rule).map fun a => { a with rank := a.rank.orElse rank }
where
  leafOrRule (kind : Kind) : Build (Symbol × Option Kind) := do
    let rules := (← get).rules
    match if kind.named then ruleIndex? rules kind.name else none with
    | some index => return (.rule index, none)
    | none =>
      let (index, shown) := tokenOf kind
      return (.token index, shown)

/-- The tokens of a rule that stand for themselves or leave no node, from the left. -/
def literals : Rule → List Kind
  | .nothing => []
  | .unseen name => [.ofName name]
  | .child kind | .variant kind _ => if kind.named then [] else [kind]
  | .field _ rule | .many rule | .cluster rule | .group _ rule | .ranked _ rule => literals rule
  | .seq a b | .either a b => literals a ++ literals b

/-- The word comes first, then what stands for itself or leaves no node in the order of the rules,
then the rest. -/
def tokensOf (rules : List Rule) (lexicon : Lexicon) : Array Token :=
  let word := lexicon.word.toList.map Kind.ofName
  let literals := rules.flatMap literals
  let others := lexicon.lexemes.map fun lexeme => Kind.ofName lexeme.name
  let lexemeOf (kind : Kind) : Lexeme :=
    ((if kind.named then lexicon.lexemes.find? (·.name == kind.name) else none)).getD
      (.plain kind.name (Pattern.text kind.name))
  let wordPattern := (word.head?.map fun kind => (lexemeOf kind).pattern).getD .never
  let token (kind : Kind) : Token :=
    let lexeme := lexemeOf kind
    ⟨kind, lexeme, !(kind.named && lexicon.isUnseen kind.name),
      lexeme.pattern.spelling?.filter wordPattern.admits⟩
  ((word ++ literals ++ others).eraseDups.map token).toArray

def ofGrammar (grammar : Grammar) (lexicon : Lexicon) : Productions :=
  let rules := grammar.rules ++ grammar.variants.map fun variant => (variant.name, variant.rule)
  let tokens := tokensOf (rules.map (·.2)) lexicon
  let position (kind : Kind) : Nat := (tokens.findIdx? (·.kind == kind)).getD tokens.size
  let tokenOf (kind : Kind) : Nat × Option Kind :=
    match if kind.named then lexicon.synonyms.lookup kind.name else none with
    | some name => (position (.ofName name), some kind)
    | none => (position kind, none)
  let names := (rules.map fun entry => (⟨.ofName entry.1, true, false⟩ : RuleName)).toArray
  let start := (ruleIndex? names grammar.root).getD 0
  let first : Production := ⟨names.size, #[⟨.rule start, none, none⟩], .none⟩
  let draft : Draft := ⟨names.push ⟨⟨"", false⟩, false, false⟩, [], #[first]⟩
  let (_, draft) := (rules.forM fun entry => do
    let alternatives ← expand tokenOf entry.2
    addProductions ((ruleIndex? names entry.1).getD 0) alternatives).run draft
  let word := lexicon.word.bind fun name => tokens.findIdx? (·.kind == .ofName name)
  ⟨tokens, draft.rules, draft.productions, word, grammar.extras.map position⟩

end Productions

end SyntaxQuery.Parsing
