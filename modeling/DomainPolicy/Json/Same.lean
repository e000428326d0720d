import DomainPolicy.Json.Value

/-!
# Values that stand for the same

* `Value.isSame` holds of numbers that are equal, however they are written, truth being one and falsehood zero, and of
  texts, arrays and objects whose parts are the same. The order of members means nothing.
-/

namespace DomainPolicy.Json.Value

/-- The whole number that a value equals, if it equals one. -/
def whole? : Value → Option Int
  | boolean b => some (if b then 1 else 0)
  | integer n => some n
  | real x => x.toInt?
  | _ => none

mutual

def isSame (v w : Value) : Bool :=
  match v, w with
  | null, null => true
  | string t, string u => t = u
  | array vs, array ws => areSame vs ws
  | object ms, object ns => ms.length = ns.length && areIn ms ns
  | real x, real y => x = y || (x.toInt?.isSome && x.toInt? = y.toInt?)
  | v, w => v.whole?.isSome && v.whole? = w.whole?

/-- Whether values are the same one by one. -/
def areSame (vs ws : List Value) : Bool :=
  match vs, ws with
  | [], [] => true
  | v :: vs, w :: ws => v.isSame w && areSame vs ws
  | _, _ => false

/-- Whether an object has these members. -/
def areIn (ms ns : List (Text × Value)) : Bool :=
  match ms with
  | [] => true
  | (k, v) :: ms => (match Members.get? k ns with | some w => v.isSame w | none => false) && areIn ms ns

end

/-- Whether a value is nothing, false, zero or empty. -/
def isVoid (v : Value) : Bool :=
  match v with
  | null | string [] | array [] | object [] => true
  | v => v.whole? = some 0

end DomainPolicy.Json.Value
