import SimpleRtsp.Lib.Arrivals
import SimpleRtsp.Rtp.Fragments

/-!
# A NAL unit as a train of packets

To a receiver that may miss packets, a payload is a part of a train: a single NAL unit is a train
of its own, and a fragment says by its flags whether it is the first or the last. `map_part` says
that the payloads of a NAL unit are such a train, with as many packets as `packetCount` says, and
`flatten_train` what they make together.
-/

namespace SimpleRtsp

/-- What a payload contributes to its NAL unit. -/
def Piece.data : Piece → List UInt8
  | .single nal => nal
  | .fragment true _ header data => header ++ data
  | .fragment false _ _ data => data
  | .other => []

/-- A payload as a part of a train; a fragment is not the first and the last. -/
def Piece.part : Piece → Option (Arrivals.Part (List UInt8))
  | .single nal => some ⟨true, true, nal⟩
  | .fragment true true _ _ => none
  | .fragment first last header data =>
    some ⟨first, last, (Piece.fragment first last header data).data⟩
  | .other => none

theorem Piece.part_fragment {first last : Bool} {header data : List UInt8}
    (h : ¬ (first = true ∧ last = true)) : (Piece.fragment first last header data).part =
      some ⟨first, last, (Piece.fragment first last header data).data⟩ := by
  cases first
  · rfl
  · cases last
    · rfl
    · exact absurd ⟨rfl, rfl⟩ h

/-- As many packets as a NAL unit of `size` bytes is sent in. -/
def packetCount (size : Nat) : Nat :=
  if size ≤ PTK_RTP_TCP_MAX then 1
  else size / PTK_RTP_TCP_MAX + if size % PTK_RTP_TCP_MAX > 0 then 1 else 0

namespace H26x

variable {fmt : FuFormat} {sort : List UInt8 → Piece}

def train (fmt : FuFormat) (sort : List UInt8 → Piece) (frame : Mem) (frameSize : Nat) :
    List (List UInt8) :=
  (fragments fmt frame frameSize).map fun p => (sort p.2).data

theorem length_fragments_eq (fmt : FuFormat) (frame : Mem) (frameSize : Nat) :
    (fragments fmt frame frameSize).length = packetCount frameSize := by
  rw [packetCount]
  split_ifs with hsize hremain
  · rw [fragments, if_pos hsize]
    rfl
  · rw [length_fragments fmt frame (by omega), if_pos hremain]
  · rw [length_fragments fmt frame (by omega), if_neg hremain]

@[simp] theorem length_train (fmt : FuFormat) (sort : List UInt8 → Piece) (frame : Mem)
    (frameSize : Nat) : (train fmt sort frame frameSize).length = packetCount frameSize := by
  rw [train, List.length_map, length_fragments_eq]

theorem packetCount_pos (frameSize : Nat) : 0 < packetCount frameSize := by
  rw [packetCount]
  split_ifs with hsize hremain
  · exact Nat.one_pos
  · exact Nat.succ_pos _
  · have := Nat.div_pos (by omega : PTK_RTP_TCP_MAX ≤ frameSize) (by decide)
    omega

theorem sort_fragment (hread : fmt.ReadBy sort) (frame : Mem) {frameSize : Nat}
    (hlong : PTK_RTP_TCP_MAX < frameSize) {k : Nat} {p : BitVec 1 × List UInt8}
    (h : (fragments fmt frame frameSize)[k]? = some p) :
    ∃ data, sort p.2 = .fragment (k = 0) (k + 1 = (fragments fmt frame frameSize).length)
      (frame.read 0 fmt.pos) data := by
  obtain ⟨data, rfl, -⟩ := getElem?_fragments fmt frame hlong rfl h
  have htwo := two_le_length_fragments fmt frame hlong
  refine ⟨data, ?_⟩
  rw [hread frame data _ (isFlag_markAt _ k)]
  congr 1
  · exact Bool.eq_iff_iff.mpr (by simpa using markAt_start _ k)
  · exact Bool.eq_iff_iff.mpr (by simpa using markAt_end htwo k)

theorem map_part (hread : fmt.ReadBy sort) (frame : Mem) (frameSize : Nat)
    (hsingle : frameSize ≤ PTK_RTP_TCP_MAX →
      sort (frame.read 0 frameSize) = .single (frame.read 0 frameSize)) :
    (fragments fmt frame frameSize).map (fun p => (sort p.2).part) =
      (Arrivals.parts (train fmt sort frame frameSize)).map some := by
  by_cases hshort : frameSize ≤ PTK_RTP_TCP_MAX
  · rw [train, fragments, if_pos hshort]
    simp only [List.map_cons, List.map_nil, hsingle hshort]
    rfl
  · have htwo := two_le_length_fragments fmt frame (by omega : PTK_RTP_TCP_MAX < frameSize)
    apply List.ext_getElem?
    intro k
    rw [List.getElem?_map, List.getElem?_map, Arrivals.parts, List.getElem?_mapIdx, train,
      List.getElem?_map, List.length_map]
    cases hk : (fragments fmt frame frameSize)[k]? with
    | none => rfl
    | some p =>
      obtain ⟨data, hsort⟩ := sort_fragment hread frame (by omega) hk
      rw [Option.map_some, Option.map_some, Option.map_some, Option.map_some, hsort,
        Piece.part_fragment]
      simp only [decide_eq_true_eq]
      omega

/-- Behind its first fragment a train is put together to its end. -/
theorem run_rest {header : List UInt8} :
    ∀ (ps : List (List UInt8)) (done : List (List UInt8)) (nal : List UInt8), ps ≠ [] →
      (∀ k p, ps[k]? = some p → ∃ data, sort p = .fragment false (k + 1 = ps.length) header data) →
      Reassembly.run sort ⟨done, some nal⟩ ps =
        some ⟨done ++ [nal ++ (ps.map fun p => (sort p).data).flatten], none⟩ := by
  intro ps
  induction ps with
  | nil => exact fun _ _ hne => absurd rfl hne
  | cons p ps ih =>
    intro done nal _ hps
    obtain ⟨data, hp⟩ := hps 0 p rfl
    rw [Reassembly.run, hp]
    cases ps with
    | nil => simp [Reassembly.step, Reassembly.run, hp, Piece.data]
    | cons q ps =>
      have hrest := ih done (nal ++ data) (List.cons_ne_nil q ps) fun k r hr => by
        obtain ⟨data, hr⟩ := hps (k + 1) r hr
        exact ⟨data, by simpa using hr⟩
      have hstep : Reassembly.step ⟨done, some nal⟩
          (.fragment false (decide (0 + 1 = (p :: q :: ps).length)) header data) =
          some ⟨done, some (nal ++ data)⟩ := by
        simp [Reassembly.step]
      rw [hstep, Option.bind_some, hrest, List.map_cons (l := q :: ps), List.flatten_cons, hp,
        List.append_assoc]
      rfl

theorem flatten_train (hread : fmt.ReadBy sort) (frame : Mem) (frameSize : Nat)
    (hsingle : frameSize ≤ PTK_RTP_TCP_MAX →
      sort (frame.read 0 frameSize) = .single (frame.read 0 frameSize)) :
    (train fmt sort frame frameSize).flatten =
      if frameSize ≤ PTK_RTP_TCP_MAX then frame.read 0 frameSize
      else frame.read 0 (fmt.pos + frameSize) := by
  split_ifs with hshort
  · rw [train, fragments, if_pos hshort]
    simp only [List.map_cons, List.map_nil, hsingle hshort, Piece.data, List.flatten_cons,
      List.flatten_nil, List.append_nil]
  · have hlong : PTK_RTP_TCP_MAX < frameSize := by omega
    have htwo := two_le_length_fragments fmt frame hlong
    have hall := depacketize_long hread frame frameSize hlong
    have hsort := fun k p => sort_fragment hread frame hlong (k := k) (p := p)
    rw [train]
    generalize fragments fmt frame frameSize = ps at htwo hall hsort ⊢
    obtain _ | ⟨p, _ | ⟨q, ps⟩⟩ := ps
    · simp at htwo
    · simp at htwo
    · obtain ⟨data, hp⟩ := hsort 0 p rfl
      have hfirst : Reassembly.step ⟨[], none⟩ (sort p.2) =
          some ⟨[], some (frame.read 0 fmt.pos ++ data)⟩ := by
        rw [hp]
        simp [Reassembly.step]
      have hbehind : ∀ k r, ((q :: ps).map Prod.snd)[k]? = some r →
          ∃ data, sort r = .fragment false (k + 1 = ((q :: ps).map Prod.snd).length)
            (frame.read 0 fmt.pos) data := by
        intro k r hr
        rw [List.getElem?_map] at hr
        obtain ⟨pair, hpair, rfl⟩ := Option.map_eq_some_iff.mp hr
        obtain ⟨data, hdata⟩ := hsort (k + 1) pair hpair
        exact ⟨data, by simpa using hdata⟩
      have hrest := run_rest ((q :: ps).map Prod.snd) [] (frame.read 0 fmt.pos ++ data)
        (by simp) hbehind
      rw [depacketize, List.map_cons, Reassembly.run, hfirst, Option.bind_some, hrest] at hall
      have hdata : (sort p.2).data = frame.read 0 fmt.pos ++ data := by
        rw [hp]
        simp [Piece.data]
      rw [List.map_cons, List.flatten_cons, hdata]
      simpa [Function.comp_def] using hall

end H26x

end SimpleRtsp
