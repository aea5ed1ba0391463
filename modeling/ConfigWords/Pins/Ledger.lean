import ConfigWords.Pins.Routing

/-! A routing settled in one pass.
Item by item, an output joins the claims on its pin, and then the register is settled, unless an
earlier item has settled it. The conflicts are read off the claims at the end. -/
namespace ConfigWords

structure Ledger where
  selectors : OrderedMap String Int
  /-- The outputs by pin, also those whose register was settled before. -/
  claims : OrderedMap String (List Resolved)
  repeats : List RepeatedInput

namespace Ledger

def empty : Ledger := ⟨OrderedMap.empty, OrderedMap.empty, []⟩

def claim (l : Ledger) (x : Resolved) : Ledger :=
  if x.assignment.direction = .output then
    let earlier := (l.claims.get? x.assignment.pin).getD []
    { l with claims := l.claims.insert x.assignment.pin (earlier ++ [x]) }
  else l

def settle (l : Ledger) (x : Resolved) : Ledger :=
  match l.selectors.get? x.register with
  | none => { l with selectors := l.selectors.insert x.register x.selector }
  | some kept =>
    if x.assignment.direction = .input then
      { l with repeats := l.repeats ++ [⟨x.assignment.signal, x.register, kept⟩] }
    else l

def enter (l : Ledger) (x : Resolved) : Ledger := (l.claim x).settle x

def ofResolved (resolved : List Resolved) : Ledger := resolved.foldl enter empty

/-- The signals of some claims: the keys of a map, so each stands where it first came. -/
def contenders (claims : List Resolved) : List String :=
  (OrderedMap.ofList (claims.map fun x => (x.assignment.signal, ()))).keys

def conflict? (pin : String) (claims : List Resolved) : Option PinConflict :=
  match claims, contenders claims with
  | first :: _, kept :: other :: more => some ⟨pin, first.register, kept, other :: more⟩
  | _, _ => none

def conflicts (l : Ledger) : List PinConflict :=
  l.claims.entries.filterMap fun e => conflict? e.1 e.2

end Ledger
end ConfigWords
