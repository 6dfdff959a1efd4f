import AiScdc.CloudRunner.Operations

namespace AiScdc
open Transaction

variable [Digest]

def storedReadable (ref : ArtifactRef) (stored : CloudRunStoredObject) : Bool :=
  stored.kind = ref.kind && stored.sha256 = ref.sha256 && stored.sizeBytes = ref.sizeBytes &&
    Digest.sha256 stored.textContent = ref.sha256 && stored.textContent.utf8ByteSize = ref.sizeBytes

-- The provider of the reference answers with a text of the promised kind, hash and size.
def readable (db : Db) (oss : ArtifactRef → OssReply) (ref : ArtifactRef) : Bool :=
  match ref.uri with
  | .localInline objectId => (db (.storedObject objectId)).any fun stored => storedReadable ref stored
  | .oss _ =>
    match oss ref with
    | .content text => Digest.sha256 text = ref.sha256 && text.utf8ByteSize = ref.sizeBytes
    | _ => false
  | .other _ => false

variable {s : Stage Row}

theorem serial_readStored {objectId : Id} {ref : ArtifactRef} {Q : String → Stage Row → Prop}
    {E : Exn → Stage Row → Prop}
    (hQ : (s.current (.storedObject objectId)).any (fun stored => storedReadable ref stored) = true →
      ∀ text, Q text s)
    (hE : (s.current (.storedObject objectId)).any (fun stored => storedReadable ref stored) = false →
      ∀ detail, E (.http 400 detail) s) : Serial (readLocalInline objectId ref) Q E s := by
  refine serial_bind (serial_get ?_)
  cases hrow : s.current (.storedObject objectId) with
  | none =>
    rw [hrow] at hE
    exact serial_http (hE rfl _)
  | some stored =>
    rw [hrow] at hQ hE
    simp only [Option.any_some,storedReadable] at hQ hE
    dsimp only
    split
    · rename_i hkind
      exact serial_http (hE (by simp [hkind]) _)
    · rename_i hkind
      split
      · rename_i hsha
        exact serial_http (hE (by simp [hsha]) _)
      · rename_i hsha
        split
        · rename_i hsize
          exact serial_http (hE (by simp [hsize]) _)
        · rename_i hsize
          split
          · rename_i hdigest
            exact serial_http (hE (by simp [hdigest]) _)
          · rename_i hdigest
            split
            · rename_i hbytes
              exact serial_http (hE (by simp [hbytes]) _)
            · rename_i hbytes
              refine serial_pure (hQ ?_ _)
              rw [not_not] at hkind hsha hsize hdigest hbytes
              simp [hkind,hsha,hsize,hdigest,hbytes]

theorem serial_readRef {oss : ArtifactRef → OssReply} {ref : ArtifactRef} {Q : String → Stage Row → Prop}
    {E : Exn → Stage Row → Prop} (hQ : readable s.current oss ref = true → ∀ text, Q text s)
    (hE : readable s.current oss ref = false → ∀ e, E e s) : Serial (readText oss ref) Q E s := by
  unfold readText
  unfold readable at hQ hE
  cases huri : ref.uri with
  | localInline objectId =>
    rw [huri] at hQ hE
    exact serial_readStored hQ fun hno detail => hE hno _
  | other uri =>
    rw [huri] at hE
    exact serial_http (hE rfl _)
  | oss path =>
    rw [huri] at hQ hE
    dsimp only at hQ hE ⊢
    unfold readOss
    cases hreply : oss ref with
    | raised name =>
      rw [hreply] at hE
      exact serial_throw (hE rfl _)
    | readError detail =>
      rw [hreply] at hE
      exact serial_http (hE rfl _)
    | content text =>
      rw [hreply] at hQ hE
      dsimp only at hQ hE ⊢
      split
      · rename_i hsha
        exact serial_http (hE (by simp [hsha]) _)
      · rename_i hsha
        split
        · rename_i hsize
          exact serial_http (hE (by simp [hsize]) _)
        · rename_i hsize
          rw [not_not] at hsha hsize
          exact serial_pure (hQ (by simp [hsha,hsize]) _)

theorem serial_readAll {oss : ArtifactRef → OssReply} {refs : List ArtifactRef}
    {Q : Option String → Stage Row → Prop} {E : Exn → Stage Row → Prop}
    (hQ : (∀ ref ∈ refs, ref.kind = .diff → readable s.current oss ref = true) → ∀ text, Q text s)
    (hE : (∃ ref ∈ refs, ref.kind = .diff ∧ readable s.current oss ref = false) → ∀ e, E e s) :
    Serial (readDiffs oss refs) Q E s := by
  induction refs generalizing Q with
  | nil => exact serial_pure (hQ (fun ref hmem => by cases hmem) _)
  | cons ref rest ih =>
    have htail (h : ∃ r ∈ rest, r.kind = .diff ∧ readable s.current oss r = false) :
        ∃ r ∈ ref :: rest, r.kind = .diff ∧ readable s.current oss r = false := by
      obtain ⟨r,hr,hkind,hno⟩ := h
      exact ⟨r,List.mem_cons_of_mem ref hr,hkind,hno⟩
    rw [readDiffs]
    split
    · rename_i hkind
      refine ih (fun hall => hQ ?_) fun hex => hE (htail hex)
      intro r hr hdiff
      rcases List.mem_cons.mp hr with rfl | hr
      · exact (hkind hdiff).elim
      · exact hall r hr hdiff
    · rename_i hkind
      have hdiff : ref.kind = .diff := not_not.mp hkind
      refine serial_bind (serial_readRef (fun hyes _ => ?_) fun hno =>
        hE ⟨ref,List.mem_cons_self,hdiff,hno⟩)
      refine serial_bind (ih (fun hall _ => serial_pure (hQ ?_ _)) fun hex => hE (htail hex))
      intro r hr hrdiff
      rcases List.mem_cons.mp hr with rfl | hr
      · exact hyes
      · exact hall r hr hrdiff

end AiScdc
