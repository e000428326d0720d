import DomainPolicy.Http.Label.Basic

/-!
# Names of hosts

* The name of a host is made of labels with points between them, and may end with a point. `HostName.form?` gives its
  form in ASCII, and `HostName.read` what a form stands for, if the labels are sound.
-/

namespace DomainPolicy.Http.HostName

/-- The most characters of a name. -/
def maxLength : Nat := 254

/-- The labels of a name; the point at its end is none between labels. -/
def labels (name : List Char) : List (List Char) :=
  let pieces := Split.pieces '.' name
  if pieces.getLast? = some [] then pieces.dropLast else pieces

/-- The name that a form stands for, without a point at its end. -/
def read (form : List Char) : Except LabelFault (List Char) :=
  if maxLength < form.length then .error .malformed
  else ((labels form).mapM Label.read).map (Split.join '.')

/-- A point of a name; three of them are outside ASCII. -/
def isPoint (c : Char) : Bool := c == '.' || c == '\u3002' || c == '\uFF0E' || c == '\uFF61'

/-- The form of a name, if it is not too long. A point at its end stays. -/
def form? (name : List Char) : Option (List Char) :=
  let name := name.map fun c => if isPoint c then '.' else c
  let ending := if name.getLast? = some '.' then ['.'] else []
  (((labels name).mapM Label.form?).map fun forms => Split.join '.' forms ++ ending).filter fun form =>
    form.length + 1 ≤ maxLength + ending.length

end DomainPolicy.Http.HostName
