import ContainerRoster.Proofs.Output.Agreement
import ContainerRoster.Proofs.Text.Bytes

/-!
# JSON output is lossless

`json_lossless`: the bytes of a listing or of a store in JSON are read as one object, and every
record or setting is found in it as it was.  Since whatever went in can be told from the tree, and
the tree from the bytes, no two listings and no two stores are printed alike.
-/

namespace ContainerRoster

namespace Json

/-- The tree that bytes write, if they are JSON. -/
def ofBytes? (bytes : List UInt8) : Option Json :=
  (Raw.ofInput? (Utf8.decode bytes)).bind (Raw.decode depthLimit)

theorem ofBytes?_encode (text : String) : ofBytes? (Utf8.encode text) = ofText? text := by
  rw [ofBytes?, Utf8.decode_encode, ofText?]

end Json

namespace Record

theorem ofBytes?_listing (records : List Record) :
    Json.ofBytes? (Utf8.encode (renderRecords .json records)) =
      some (.object (listing records)) := by
  rw [Json.ofBytes?_encode]
  exact Json.ofText?_documentText (fits_listing (Json.depthLimit - 3) records)

theorem document_injective : Function.Injective fun r : Record => Json.object r.document := by
  intro r r' h
  simp only [document, Json.object.injEq, List.cons.injEq, Prod.mk.injEq, Json.string.injEq,
    true_and, and_true] at h
  obtain ⟨hid, hcreated, hstate, hname, hpid, hip, hmount⟩ := h
  cases r
  cases r'
  simp only [mk.injEq]
  exact ⟨hid, hcreated, hstate, hname, hpid, hip, hmount⟩

theorem listing_injective : Function.Injective listing := by
  intro records records' h
  simp only [listing, List.cons.injEq, Prod.mk.injEq, Json.array.injEq, true_and, and_true] at h
  exact (List.map_inj_right fun _ _ e => document_injective e).mp h

end Record

namespace IdMap

theorem document_injective : Function.Injective fun m : IdMap => Json.object m.document := by
  intro m m' h
  simp only [document, number, Json.object.injEq, List.cons.injEq, Prod.mk.injEq,
    Json.number.injEq, Json.Number.integer.injEq, Int.natCast_inj, UInt32.toNat_inj, true_and,
    and_true] at h
  obtain ⟨hcontainer, hhost, hsize⟩ := h
  cases m
  cases m'
  simp only [mk.injEq]
  exact ⟨hcontainer, hhost, hsize⟩

end IdMap

namespace Store

theorem ofBytes?_document (store : Store) :
    Json.ofBytes? (Utf8.encode (renderStore .json store)) = some (.object store.document) := by
  rw [Json.ofBytes?_encode]
  exact Json.ofText?_documentText (store.fits_document (Json.depthLimit - 3))

theorem document_injective : Function.Injective document := by
  intro s s' h
  simp only [document, List.cons.injEq, Prod.mk.injEq, Json.string.injEq, Json.array.injEq,
    true_and, and_true] at h
  obtain ⟨hrun, hroot, hdriver, hoptions, huids, hgids⟩ := h
  have hmaps : ∀ {maps maps' : List IdMap}, maps.map (fun m => Json.object m.document) =
      maps'.map (fun m => Json.object m.document) → maps = maps' :=
    (List.map_inj_right fun _ _ e => IdMap.document_injective e).mp
  cases s
  cases s'
  simp only [mk.injEq]
  exact ⟨hrun, hroot, hdriver, (List.map_inj_right fun _ _ e => Json.string.inj e).mp hoptions,
    hmaps huids, hmaps hgids⟩

end Store

/-- What is printed of a listing or of a store in JSON holds each of its parts under its key, and
no two are printed alike. -/
theorem json_lossless :
    (∀ records : List Record, Json.ofBytes? (Utf8.encode (renderRecords .json records)) =
      some (.object [("Containers", .array (records.map fun r => .object
        [("ContainerId", .string r.id),
         ("CTM", .string r.created),
         ("State", .string r.state),
         ("Name", .string r.name),
         ("PID", .string r.pid),
         ("IP", .string r.ip),
         ("MountPoint", .string r.mountPoint)]))])) ∧
    (∀ store : Store,
      let ids := fun m : IdMap => Json.object
        [("container_id", .number (.integer m.containerId.toNat)),
         ("host_id", .number (.integer m.hostId.toNat)),
         ("size", .number (.integer m.size.toNat))]
      Json.ofBytes? (Utf8.encode (renderStore .json store)) =
        some (.object
          [("runroot", .string store.runRoot),
           ("root", .string store.graphRoot),
           ("driver", .string store.driver),
           ("driver-options", .array (store.driverOptions.map .string)),
           ("uidmap", .array (store.uidMap.map ids)),
           ("gidmap", .array (store.gidMap.map ids))])) ∧
    (Function.Injective fun records => Utf8.encode (renderRecords .json records)) ∧
    Function.Injective fun store => Utf8.encode (renderStore .json store) := by
  refine ⟨Record.ofBytes?_listing, Store.ofBytes?_document, ?_, ?_⟩
  · intro records records' h
    have hread := congrArg Json.ofBytes? h
    simp only [Record.ofBytes?_listing, Option.some.injEq, Json.object.injEq] at hread
    exact Record.listing_injective hread
  · intro store store' h
    have hread := congrArg Json.ofBytes? h
    simp only [Store.ofBytes?_document, Option.some.injEq, Json.object.injEq] at hread
    exact Store.document_injective hread

end ContainerRoster
