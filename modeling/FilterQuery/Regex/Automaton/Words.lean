import FilterQuery.Regex.Automaton.Draft

/-!
# Automata for alternatives of words

An alternation of nothing but literals becomes a tree of their bytes.  Words
that begin alike share states, as long as no word between them ends there: a
word that ends keeps its place before those that follow.
-/

namespace FilterQuery.Regex

/-- Puts a word into the group of those with its first byte. -/
def insertWord (b : Nat) (tail : List Nat) :
    List (Nat × List (List Nat)) → List (Nat × List (List Nat))
  | [] => [(b, [tail])]
  | (c, tails) :: groups =>
    if b = c then (c, tails ++ [tail]) :: groups else (c, tails) :: insertWord b tail groups

/-- The words at a node of the tree: groups of words with the same first byte,
in parts that the words which end at the node divide, the last part first. -/
def wordParts (words : List (List Nat)) : List (List (Nat × List (List Nat))) :=
  words.foldl
    (fun parts word =>
      match word, parts with
      | [], [[], []] => parts
      | [], parts => [] :: parts
      | b :: tail, part :: parts => insertWord b tail part :: parts
      | b :: tail, [] => [insertWord b tail []])
    [[]]

/-- Adds the node of a tree with the words that go on from there, of at most
`depth` bytes.  A node where words only end needs no state of its own. -/
def Draft.addWordsFor? : Nat → List (List Nat) → Draft → Option Draft
  | 0, _, d => some d
  | depth + 1, words, d =>
    if words.all (·.isEmpty) then some d
    else do
      let parts := wordParts words
      let d ← parts.reverse.foldlM
        (fun d part => do
          let d ← part.foldlM (fun d group => addWordsFor? depth group.2 d) d
          match part with
          | [] => return d
          | [_] => d.grow? 1
          | links => d.grow? 1 (linkBytes * links.length))
        d
      let jumps := (parts.filter (!·.isEmpty)).length + (parts.length - 1)
      d.grow? 1 (jumpBytes * jumps)

/-- Adds alternatives of words. -/
def Draft.addWords? (words : List (List Nat)) (d : Draft) : Option Draft := do
  let d ← d.grow? 1
  d.addWordsFor? (words.foldl (fun n word => max n word.length) 0 + 1) words

end FilterQuery.Regex
