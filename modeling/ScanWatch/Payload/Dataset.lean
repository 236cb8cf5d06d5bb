import ScanWatch.Payload.Decoder

namespace ScanWatch

/-- A dataset's taints; its other members are kept as they came. -/
structure Dataset where
  taints : List String
  extra : Dictionary Json
deriving BEq, Inhabited

abbrev DatasetMap := Dictionary Dataset

namespace Dataset

def ofTaints (taints : List String) : Dataset :=
  ⟨taints, .empty⟩

def fields : List String :=
  ["taints"]

open Payload in
def decode : Decoder Dataset := Decoder.openRecord fun depth members => do
  let taints ← members.withDefault "taints" [] (Decoder.text.list depth)
  let extra ← (members.others fields).dictionary? (Decoder.any depth)
  return ⟨taints, extra⟩

def encode (dataset : Dataset) : Json :=
  .object (("taints", .array (dataset.taints.map .string)) :: dataset.extra.entries)

end Dataset

namespace DatasetMap

open Payload in
def decode : Decoder DatasetMap :=
  Dataset.decode.dictionary

def encode (datasets : DatasetMap) : Json :=
  .object (datasets.entries.map fun (id, dataset) => (id, dataset.encode))

end DatasetMap

/-- The distinct taints of all datasets, in the order of their UTF-8 bytes. -/
def availableTaints (datasets : DatasetMap) : List String :=
  (Dictionary.ofList ((datasets.values.flatMap Dataset.taints).map fun taint => (taint, ()))).keys

end ScanWatch
