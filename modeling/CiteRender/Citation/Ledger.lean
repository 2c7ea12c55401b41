import CiteRender.Bibliography.Basic

/-!
# The Citation Ledger

What a render knows about an article's references: the keys cited so far,
in order of first appearance, and the entries they may refer to. The place
of a key in the list is the number its markers show, so recording a key
again changes nothing.

## Main definitions

* `Ledger`: Cited keys and known entries.
* `Ledger.cite`: Records a citation.
* `Ledger.number`: The number of a cited key, counted from one.
* `Ledger.entry`: The entry under a key.
-/

namespace CiteRender

/-- Cited keys in order of first appearance, and the entries known. -/
structure Ledger where
  cited : List String := []
  bibliography : Bibliography := ∅

namespace Ledger

/-- Records a key unless it has been cited already. -/
def cite (ledger : Ledger) (key : String) : Ledger :=
  if key ∈ ledger.cited then ledger else { ledger with cited := ledger.cited ++ [key] }

/-- Records keys in order. -/
def citeAll (ledger : Ledger) (keys : List String) : Ledger :=
  keys.foldl cite ledger

/-- The first-appearance number of a key, counted from one. -/
def number (ledger : Ledger) (key : String) : Option Nat :=
  (ledger.cited.idxOf? key).map (· + 1)

/-- The entry under a key. -/
def entry (ledger : Ledger) (key : String) : Option Entry :=
  ledger.bibliography[key]?

/-- Puts an entry under a key, in place of any entry there. -/
def insertEntry (ledger : Ledger) (key : String) (entry : Entry) : Ledger :=
  { ledger with bibliography := ledger.bibliography.insert key entry }

end Ledger

end CiteRender
