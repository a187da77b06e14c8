import SyntaxQuery.Regex

/-! Compiled patterns, kept so that a pattern used by many conditions is compiled once. The cache is
bounded: when it is full it is emptied before the next pattern is compiled, whether or not that
pattern then compiles. -/
namespace SyntaxQuery

structure RegexCache where
  entries : List (String × Regex)

namespace RegexCache

def capacity : Nat := 256

def empty : RegexCache := ⟨[]⟩

def size (cache : RegexCache) : Nat := cache.entries.length

def find? (cache : RegexCache) (pattern : String) : Option Regex :=
  (cache.entries.find? (·.1 == pattern)).map (·.2)

def makeRoom (cache : RegexCache) : RegexCache :=
  if capacity ≤ cache.size then empty else cache

/-- The regex of a pattern, from the cache or compiled; only what compiles is kept. -/
def get [RegexCompiler] (cache : RegexCache) (pattern : String) : Except String Regex × RegexCache :=
  match cache.find? pattern with
  | some regex => (.ok regex, cache)
  | none =>
    let roomy := cache.makeRoom
    match Regex.compile pattern with
    | .ok regex => (.ok regex, ⟨roomy.entries ++ [(pattern, regex)]⟩)
    | .error error => (.error error, roomy)

def clear (_ : RegexCache) : RegexCache := empty

end RegexCache

end SyntaxQuery
