import ConfigWords.Distinct
import ConfigWords.Scalar

/-! Sorted lists as they are shown: whole numbers, texts by code point, and scalars of one kind. -/
namespace ConfigWords

def sortedDistinct (ns : List Int) : List Int :=
  (distinct ns).mergeSort fun a b => decide (a ≤ b)

namespace Scalar

def numberOrder : Scalar → Option (Int × Rat)
  | s => match s.key with
    | .number q => some (0, q)
    | .infinite negative => some (if negative then -1 else 1, 0)
    | _ => none

/-- Whether both scalars have an order and the first does not come after the second; none when
they cannot be compared. -/
def notAfter? (a b : Scalar) : Option Bool :=
  match a, b with
  | .text s, .text t => some (decide (s ≤ t))
  | .date y m d, .date y' m' d' => some (decide ((y, m, d) = (y', m', d')) ||
      (y < y' || (y == y' && (m < m' || (m == m' && d ≤ d')))))
  | a, b => match a.numberOrder, b.numberOrder with
    | some p, some q => some (p.1 < q.1 || (p.1 == q.1 && decide (p.2 ≤ q.2)))
    | _, _ => none

def sorted? (items : List Scalar) : Option (List Scalar) :=
  match items with
  | [] | [_] => some items
  | first :: rest =>
    if rest.all fun s => (notAfter? first s).isSome then
      some (items.mergeSort fun a b => (notAfter? a b).getD true)
    else none

end Scalar
end ConfigWords
