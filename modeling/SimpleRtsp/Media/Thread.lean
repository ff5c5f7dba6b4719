import SimpleRtsp.Lib.Transition
import SimpleRtsp.Media.AnnexB

/-!
# The media thread

`parseMp4SendDataThd` reads the packets of a file, waits for the time of each, and makes callbacks:
one for a packet of the audio stream, and one for every NAL unit that the bitstream filter has for a
packet of the video stream. At the end of the file it begins again. `MediaThread` is the thread
between two accesses to what another thread or the outside world can change, and the other thread
is in `destroyMedia`, which clears `run_flag` and waits for this one to end. The callbacks are the
file played over and over (`played_reach`), none comes before its time (`punctual_reach`), and once
`run_flag` is cleared the thread makes at most one more and ends (`ends_destroyed`).
-/

namespace SimpleRtsp

/-! ## The file -/

/-- What `av_read_frame` delivers; `timestamp` is `dts` as `av_rescale_q` makes it microseconds. -/
structure DemuxedPacket where
  streamIndex : Int
  timestamp : Int
  data : List UInt8

/-- What `av_bsf_receive_packet` delivers: NAL units behind start codes. -/
structure FilteredPacket where
  pkt : AVPacket
  units : List (StartCode × NalUnit)
  bytes : pkt.bytes = annexB units
  nonempty : units ≠ []

/-- A file as ffmpeg reads it. `filter` is what the bitstream filter has for the last of the packets
it was given; it is not flushed when the file begins again. A stream that the file does not have has
a negative index. -/
structure MediaFile where
  videoStreamIndex : Int
  audioStreamIndex : Int
  packets : List DemuxedPacket
  filter : List DemuxedPacket → List FilteredPacket
  apart : 0 ≤ videoStreamIndex → videoStreamIndex ≠ audioStreamIndex
  index : ∀ p ∈ packets, 0 ≤ p.streamIndex

namespace MediaFile

variable (file : MediaFile)

def isVideo (p : DemuxedPacket) : Bool := p.streamIndex = file.videoStreamIndex

def isAudio (p : DemuxedPacket) : Bool := p.streamIndex = file.audioStreamIndex

/-- The frames in a packet of the file and their time, when `before` is in the filter. -/
def framesOf (before : List DemuxedPacket) (p : DemuxedPacket) : List (Int × MediaFrame) :=
  if file.isVideo p then
    (file.filter (before ++ [p])).flatMap fun f =>
      f.units.map fun u => (p.timestamp, ⟨.video, u.2.bytes⟩)
  else if file.isAudio p then [(p.timestamp, ⟨.audio, p.data⟩)]
  else []

/-- The frames in packets that follow one another. -/
def frames (before : List DemuxedPacket) : List DemuxedPacket → List (Int × MediaFrame)
  | [] => []
  | p :: rest =>
    file.framesOf before p ++ frames (before ++ [p].filter file.isVideo) rest

/-- The packets of the file, `n` times. -/
def loop (n : Nat) : List DemuxedPacket := (List.replicate n file.packets).flatten

def isPlayed (p : DemuxedPacket) : Bool := file.isVideo p || file.isAudio p

/-- From a packet to the next it is less than `av_usleep` can wait; `last` is the time of the packet
before. -/
def Spaced (last : Int) : List DemuxedPacket → Prop
  | [] => True
  | p :: rest =>
    if file.isPlayed p then p.timestamp < last + 2 ^ 32 ∧ Spaced p.timestamp rest
    else Spaced last rest

theorem frames_append (before ps qs : List DemuxedPacket) :
    file.frames before (ps ++ qs) =
      file.frames before ps ++ file.frames (before ++ ps.filter file.isVideo) qs := by
  induction ps generalizing before with
  | nil => simp [frames]
  | cons p ps ih =>
    rw [List.cons_append, frames, frames, ih, List.append_assoc, List.append_assoc,
      ← List.filter_append]
    rfl

theorem frames_concat (before ps : List DemuxedPacket) (p : DemuxedPacket) :
    file.frames before (ps ++ [p]) =
      file.frames before ps ++ file.framesOf (before ++ ps.filter file.isVideo) p := by
  rw [frames_append, frames, frames, List.append_nil]

end MediaFile

/-! ## The thread -/

inductive MediaPc where
  /-- at `while (mp4info->run_flag == 1)` -/
  | test
  /-- at `av_read_frame` -/
  | read
  /-- at `av_gettime`, with the packet in `av_pkt` -/
  | pace (avPkt : DemuxedPacket)
  /-- behind `av_usleep` -/
  | dispatch (avPkt : DemuxedPacket)
  /-- at the `while` in front of `av_bsf_receive_packet`, which has these packets -/
  | filter (pending : List FilteredPacket)
  /-- at the `while` in front of `praseFrame` -/
  | parse (pending : List FilteredPacket)
  /-- behind that `while` -/
  | call (pending : List FilteredPacket)
  | exited

/-- A callback: what it sees, when it is made, and what it was paced by. -/
structure MediaCall where
  media : Mediainfo
  time : Int
  startTime : Int
  curtimestamp : Int

def MediaCall.frame (call : MediaCall) : MediaFrame :=
  if call.media.nowStreamIsVideo then ⟨.video, call.media.getVideoNALUWithoutStartCode⟩
  else ⟨.audio, call.media.getAudioWithoutADTS⟩

def MediaCall.timed (call : MediaCall) : Int × MediaFrame := (call.curtimestamp, call.frame)

structure MediaThread where
  pc : MediaPc
  runFlag : Bool
  media : MediainfoSt
  bufferAudio : List UInt8
  /-- the packets that `av_read_frame` still has -/
  unread : List DemuxedPacket
  /-- the packets that went into the filter -/
  filtered : List DemuxedPacket
  startTime : Int
  curtimestamp : Int
  /-- what `av_gettime` returns -/
  clock : Int
  calls : List MediaCall

inductive MediaLabel where
  /-- The thread goes on, `elapsed` microseconds later. -/
  | run (elapsed : Nat)
  /-- `destroyMedia` clears `run_flag`. -/
  | stop

namespace MediaThread

/-- The structure when `creatMedia` starts the thread; `uninit` is what it does not write. -/
def creatMedia (file : MediaFile) (uninit : MediainfoSt) (bufferAudio : List UInt8) (clock : Int) :
    MediaThread where
  pc := .test
  runFlag := true
  media :=
    { uninit with
      videoStreamIndex := file.videoStreamIndex
      audioStreamIndex := file.audioStreamIndex
      buffer := ⟨⟨0, uninit.buffer.buf.mem⟩, 0, .write, 0⟩
      frame :=
        { uninit.frame with frame := ⟨⟨0, uninit.frame.frame.block.mem⟩, 0⟩, stat := .write } }
  bufferAudio := bufferAudio
  unread := file.packets
  filtered := []
  startTime := clock
  curtimestamp := 0
  clock := clock
  calls := []

/-- The argument of `av_usleep` is an `unsigned`. -/
def avUsleep (usec : Int) : Nat := (usec % 2 ^ 32).toNat

/-- How long a turn lasts at least. -/
def wait (s : MediaThread) : Nat :=
  match s.pc with
  | .pace _ =>
    let nowTime := s.clock - s.startTime
    if s.curtimestamp > nowTime then avUsleep (s.curtimestamp - nowTime) else 0
  | _ => 0

def dataCallBack (m : MediainfoSt) (s : MediaThread) : MediaThread :=
  { s with calls := s.calls ++ [⟨m.view s.bufferAudio, s.clock, s.startTime, s.curtimestamp⟩] }

/-- `av_read_frame`; at the end of the file, `av_seek_frame` and `continue`. A packet of another
stream is skipped. -/
def avReadFrame (file : MediaFile) (s : MediaThread) : MediaThread :=
  match s.unread with
  | [] => { s with unread := file.packets, startTime := s.clock, pc := .test }
  | p :: rest =>
    let s :=
      { s with
        unread := rest
        curtimestamp := p.timestamp
        media := { s.media with nowStreamIndex := p.streamIndex } }
    if p.streamIndex = s.media.videoStreamIndex then { s with pc := .pace p }
    else if p.streamIndex = s.media.audioStreamIndex then
      { s with bufferAudio := p.data, pc := .pace p }
    else s

/-- `av_bsf_receive_packet`, or the end of the loop around it. -/
def avBsfReceivePacket (pending : List FilteredPacket) (s : MediaThread) : MediaThread :=
  if s.runFlag then
    match pending with
    | [] =>
      { s with
        media := { s.media with buffer := { s.media.buffer with bufSize := 0, pos := 0 } }
        pc := .test }
    | f :: rest =>
      { s with
        media := { s.media with buffer := ⟨f.pkt.data, f.pkt.size, .read, 0⟩ }
        pc := .parse rest }
  else { s with pc := .test }

/-- What the thread does until it looks at something shared again. -/
def parseMp4SendDataThd (file : MediaFile) (s : MediaThread) : MediaThread :=
  match s.pc with
  | .test => { s with pc := if s.runFlag then .read else .exited }
  | .read => s.avReadFrame file
  | .pace p => { s with pc := .dispatch p }
  | .dispatch p =>
    if p.streamIndex = s.media.videoStreamIndex then
      { s with
        filtered := s.filtered ++ [p]
        pc := .filter (file.filter (s.filtered ++ [p])) }
    else if s.media.nowStreamIndex = s.media.audioStreamIndex then
      { s.dataCallBack s.media with pc := .test }
    else { s with pc := .test }
  | .filter pending => s.avBsfReceivePacket pending
  | .parse pending =>
    { s with
      pc := if s.media.buffer.stat = .read ∧ s.runFlag then .call pending else .filter pending }
  | .call pending =>
    { s.dataCallBack (praseFrame s.media) with media := s.media.turn, pc := .parse pending }
  | .exited => s

def isOver (s : MediaThread) : Bool :=
  match s.pc with
  | .exited => true
  | _ => false

def step (file : MediaFile) (s : MediaThread) : MediaLabel → Option MediaThread
  | .run elapsed =>
    if s.isOver ∨ elapsed < s.wait then none
    else some ({ s with clock := s.clock + elapsed }.parseMp4SendDataThd file)
  | .stop => some { s with runFlag := false }

end MediaThread

/-! ## The frames of the file -/

def unitFrames (time : Int) (units : List (StartCode × NalUnit)) : List (Int × MediaFrame) :=
  units.map fun u => (time, ⟨.video, u.2.bytes⟩)

def filteredFrames (time : Int) (pending : List FilteredPacket) : List (Int × MediaFrame) :=
  pending.flatMap fun f => unitFrames time f.units

/-- The buffer is to be parsed from `pos` on, and there these units begin. -/
structure Unparsed (m : MediainfoSt) (units : List (StartCode × NalUnit)) (pkt : AVPacket)
    (pos : Nat) : Prop where
  at_pos : At pkt pos m
  read : pkt.data.mem.read pos (annexB units).length = annexB units
  size : pos + (annexB units).length = pkt.size

theorem annexB_pos {units : List (StartCode × NalUnit)} (h : units ≠ []) :
    0 < (annexB units).length := by
  obtain ⟨⟨code, u⟩, rest, rfl⟩ := List.exists_cons_of_ne_nil h
  rw [annexB_cons, List.length_append]
  cases code <;> simp [StartCode.bytes]

theorem FilteredPacket.unparsed (f : FilteredPacket) {m : MediainfoSt}
    (hstat : m.frame.stat = .write) (hnow : m.nowStreamIndex ≠ m.audioStreamIndex) :
    Unparsed { m with buffer := ⟨f.pkt.data, f.pkt.size, .read, 0⟩ } f.units f.pkt 0 := by
  have hsize : (annexB f.units).length = f.pkt.size := by
    rw [← f.bytes, AVPacket.bytes, Mem.length_read]
  have hpos := annexB_pos f.nonempty
  refine ⟨⟨?_, hstat, hnow⟩, ?_, by rw [hsize, Nat.zero_add]⟩
  · rw [if_neg (by omega)]
  · rw [hsize]
    exact f.bytes

namespace Unparsed

variable {m : MediainfoSt} {units : List (StartCode × NalUnit)} {pkt : AVPacket} {pos : Nat}

theorem stat_iff (h : Unparsed m units pkt pos) : m.buffer.stat = .read ↔ units ≠ [] := by
  rw [h.at_pos.buffer]
  cases units with
  | nil =>
    have hsize : pos = pkt.size := h.size
    simp [hsize]
  | cons u units =>
    have hpos := annexB_pos (List.cons_ne_nil u units)
    have hsize := h.size
    rw [if_neg (by omega)]
    simp

theorem turn {u : StartCode × NalUnit} (h : Unparsed m (u :: units) pkt pos) :
    (praseFrame m).nalu = some u.2.bytes ∧
      Unparsed m.turn units pkt (pos + u.1.bytes.length + u.2.bytes.length) := by
  have hpos := annexB_pos (List.cons_ne_nil u units)
  have hsize := h.size
  have hunit := unitAt_of_read h.read h.size
  obtain ⟨hnalu, hat⟩ := h.at_pos.unit hunit (by omega)
  refine ⟨hnalu, hat, hunit.rest, ?_⟩
  rw [annexB_cons, List.length_append, List.length_append] at hsize
  omega

end Unparsed

theorem timed_video {m : MediainfoSt} {nal bufferAudio : List UInt8} {time startTime cur : Int}
    (hnow : m.nowStreamIndex = m.videoStreamIndex) (hnalu : m.nalu = some nal) :
    (⟨m.view bufferAudio, time, startTime, cur⟩ : MediaCall).timed = (cur, ⟨.video, nal⟩) := by
  have hvideo : (m.view bufferAudio).nowStreamIsVideo := beq_iff_eq.mpr hnow
  have hexposed : m.exposed.map Slice.bytes = some nal := hnalu
  rw [MediaCall.timed, MediaCall.frame, if_pos hvideo,
    MediainfoSt.view_getVideoNALUWithoutStartCode, hexposed]
  rfl

theorem timed_audio {m : MediainfoSt} {bufferAudio : List UInt8} {time startTime cur : Int}
    (hnow : m.nowStreamIndex ≠ m.videoStreamIndex) :
    (⟨m.view bufferAudio, time, startTime, cur⟩ : MediaCall).timed =
      (cur, ⟨.audio, bufferAudio⟩) := by
  have hvideo : ¬ (m.view bufferAudio).nowStreamIsVideo := fun h => hnow (beq_iff_eq.mp h)
  rw [MediaCall.timed, MediaCall.frame, if_neg hvideo, Mediainfo.getAudioWithoutADTS, if_neg]
  · rfl
  · exact hnow

/-- The packet that was read and not yet handled. -/
def MediaPc.current : MediaPc → List DemuxedPacket
  | .pace p | .dispatch p => [p]
  | _ => []

namespace MediaThread

/-- What is left to be called for at a place of the thread. -/
def Pending (file : MediaFile) (s : MediaThread) (rest : List (Int × MediaFrame)) : MediaPc → Prop
  | .test => rest = [] ∨ s.runFlag = false
  | .read => rest = []
  | .pace p | .dispatch p =>
    rest = [] ∧ s.curtimestamp = p.timestamp ∧ s.media.nowStreamIndex = p.streamIndex ∧
      0 ≤ p.streamIndex ∧ (file.isVideo p ∨ file.isAudio p ∧ s.bufferAudio = p.data)
  | .filter pending =>
    0 ≤ file.videoStreamIndex ∧ s.media.nowStreamIndex = file.videoStreamIndex ∧
      (rest = filteredFrames s.curtimestamp pending ∨ s.runFlag = false)
  | .parse pending =>
    0 ≤ file.videoStreamIndex ∧ s.media.nowStreamIndex = file.videoStreamIndex ∧
      ∃ units pkt pos, Unparsed s.media units pkt pos ∧
        rest = unitFrames s.curtimestamp units ++ filteredFrames s.curtimestamp pending
  | .call pending =>
    0 ≤ file.videoStreamIndex ∧ s.media.nowStreamIndex = file.videoStreamIndex ∧
      ∃ u units pkt pos, Unparsed s.media (u :: units) pkt pos ∧
        rest = unitFrames s.curtimestamp (u :: units) ++ filteredFrames s.curtimestamp pending
  | .exited => True

/-- The callbacks so far, and those that are due for the packets `begun`, are the frames of these
packets, which are the first ones of the file played over and over. -/
structure Plays (file : MediaFile) (s : MediaThread) (n : Nat) (begun : List DemuxedPacket)
    (rest : List (Int × MediaFrame)) : Prop where
  video : s.media.videoStreamIndex = file.videoStreamIndex
  audio : s.media.audioStreamIndex = file.audioStreamIndex
  stat : s.media.frame.stat = .write
  index : ∀ p ∈ s.unread, 0 ≤ p.streamIndex
  packets : begun ++ s.pc.current ++ s.unread = file.loop n
  filtered : s.filtered = begun.filter file.isVideo
  frames : s.calls.map MediaCall.timed ++ rest = file.frames [] begun
  pending : Pending file s rest s.pc

namespace Plays

variable {file : MediaFile} {s : MediaThread} {n : Nat} {begun : List DemuxedPacket}
  {rest : List (Int × MediaFrame)}

theorem skipped {p : DemuxedPacket} (hvideo : ¬ file.isVideo p) (haudio : ¬ file.isAudio p)
    (ps : List DemuxedPacket) : file.frames [] (ps ++ [p]) = file.frames [] ps ∧
      (ps ++ [p]).filter file.isVideo = ps.filter file.isVideo := by
  constructor
  · rw [MediaFile.frames_concat, MediaFile.framesOf, if_neg hvideo, if_neg haudio, List.append_nil]
  · rw [List.filter_append, List.filter_cons_of_neg hvideo, List.filter_nil, List.append_nil]

theorem read (h : Plays file s n begun rest) (hpc : s.pc = .read) :
    ∃ n begun rest, Plays file (s.avReadFrame file) n begun rest := by
  have hpackets := h.packets
  have hpending := h.pending
  rw [hpc] at hpackets hpending
  have hnil : rest = [] := hpending
  have hcurrent : begun ++ s.unread = file.loop n := by simpa [MediaPc.current] using hpackets
  rw [MediaThread.avReadFrame]
  cases hunread : s.unread with
  | nil =>
    rw [hunread, List.append_nil] at hcurrent
    refine ⟨n + 1, begun, rest, h.video, h.audio, h.stat, file.index, ?_, h.filtered, h.frames,
      Or.inl hnil⟩
    change begun ++ [] ++ file.packets = file.loop (n + 1)
    rw [List.append_nil, hcurrent, MediaFile.loop, MediaFile.loop, List.replicate_succ',
      List.flatten_append, List.flatten_singleton]
  | cons p ps =>
    rw [hunread] at hcurrent
    have hindex := h.index
    rw [hunread] at hindex
    obtain ⟨hp, hps⟩ := List.forall_mem_cons.mp hindex
    have hstep : begun ++ [p] ++ ps = file.loop n := by
      rw [List.append_assoc, List.singleton_append, hcurrent]
    dsimp only
    split_ifs with hvideo haudio
    · rw [h.video] at hvideo
      exact ⟨n, begun, rest, h.video, h.audio, h.stat, hps, hstep, h.filtered, h.frames, hnil, rfl,
        rfl, hp, Or.inl (decide_eq_true hvideo)⟩
    · rw [h.audio] at haudio
      exact ⟨n, begun, rest, h.video, h.audio, h.stat, hps, hstep, h.filtered, h.frames, hnil, rfl,
        rfl, hp, Or.inr ⟨decide_eq_true haudio, rfl⟩⟩
    · rw [h.video] at hvideo
      rw [h.audio] at haudio
      have hisVideo : ¬ file.isVideo p := by simpa [MediaFile.isVideo]
      have hisAudio : ¬ file.isAudio p := by simpa [MediaFile.isAudio]
      obtain ⟨hframes, hfilter⟩ := skipped hisVideo hisAudio begun
      refine ⟨n, begun ++ [p], rest, h.video, h.audio, h.stat, hps, ?_, ?_, ?_, ?_⟩
      · dsimp only
        rw [hpc]
        simpa [MediaPc.current] using hstep
      · rw [hfilter]
        exact h.filtered
      · rw [hframes]
        exact h.frames
      · dsimp only
        rw [hpc]
        exact hnil

theorem dispatch (h : Plays file s n begun rest) {p : DemuxedPacket} (hpc : s.pc = .dispatch p) :
    ∃ n begun rest, Plays file (s.parseMp4SendDataThd file) n begun rest := by
  have hpackets := h.packets
  have hpending := h.pending
  rw [hpc] at hpackets hpending
  obtain ⟨rfl, hcur, hnow, hp, hstream⟩ := hpending
  have hstep : begun ++ [p] ++ [] ++ s.unread = file.loop n := by
    rw [List.append_nil]
    exact hpackets
  have hframes : file.frames [] (begun ++ [p]) =
      s.calls.map MediaCall.timed ++ file.framesOf (begun.filter file.isVideo) p := by
    rw [MediaFile.frames_concat, ← h.frames, List.append_nil, List.nil_append]
  rw [MediaThread.parseMp4SendDataThd, hpc]
  dsimp only
  split_ifs with hvideo haudio
  · rw [h.video] at hvideo
    have hisVideo : file.isVideo p := decide_eq_true hvideo
    refine ⟨n, begun ++ [p], filteredFrames s.curtimestamp (file.filter (s.filtered ++ [p])),
      h.video, h.audio, h.stat, h.index, hstep, ?_, ?_, hvideo ▸ hp, hnow.trans hvideo, Or.inl rfl⟩
    · rw [List.filter_append, List.filter_cons_of_pos hisVideo, List.filter_nil, ← h.filtered]
    · rw [hframes, MediaFile.framesOf, if_pos hisVideo, ← h.filtered, ← hcur]
      rfl
  · rw [h.video] at hvideo
    have hisVideo : ¬ file.isVideo p := by simpa [MediaFile.isVideo]
    obtain ⟨hisAudio, hdata⟩ := hstream.resolve_left hisVideo
    refine ⟨n, begun ++ [p], [], h.video, h.audio, h.stat, h.index, hstep, ?_, ?_, Or.inl rfl⟩
    · rw [List.filter_append, List.filter_cons_of_neg hisVideo, List.filter_nil, List.append_nil]
      exact h.filtered
    · have hother : s.media.nowStreamIndex ≠ s.media.videoStreamIndex := by
        rw [hnow, h.video]
        exact hvideo
      rw [hframes, MediaFile.framesOf, if_neg hisVideo, if_pos hisAudio, ← hdata, List.append_nil,
        MediaThread.dataCallBack, List.map_append, List.map_singleton, timed_audio hother, hcur]
  · rw [h.video] at hvideo
    have hisVideo : ¬ file.isVideo p := by simpa [MediaFile.isVideo]
    obtain ⟨hisAudio, -⟩ := hstream.resolve_left hisVideo
    exact absurd (by rw [hnow, h.audio]; exact of_decide_eq_true hisAudio) haudio

theorem filter (h : Plays file s n begun rest) {pending : List FilteredPacket}
    (hpc : s.pc = .filter pending) :
    ∃ rest, Plays file (s.avBsfReceivePacket pending) n begun rest := by
  have hpackets := h.packets
  have hpending := h.pending
  rw [hpc] at hpackets hpending
  obtain ⟨hvideo, hnow, hrest⟩ := hpending
  unfold MediaThread.avBsfReceivePacket
  split_ifs with hrun
  · obtain rfl : rest = filteredFrames s.curtimestamp pending :=
      hrest.resolve_right (by simp [hrun])
    cases pending with
    | nil =>
      exact ⟨_, h.video, h.audio, h.stat, h.index, hpackets, h.filtered, h.frames, Or.inl rfl⟩
    | cons f pending =>
      have hapart : s.media.nowStreamIndex ≠ s.media.audioStreamIndex := by
        rw [hnow, h.audio]
        exact file.apart hvideo
      exact ⟨_, h.video, h.audio, h.stat, h.index, hpackets, h.filtered, h.frames, hvideo, hnow,
        f.units, f.pkt, 0, f.unparsed h.stat hapart, rfl⟩
  · exact ⟨_, h.video, h.audio, h.stat, h.index, hpackets, h.filtered, h.frames,
      Or.inr (by simpa using hrun)⟩

theorem parse (h : Plays file s n begun rest) {pending : List FilteredPacket}
    (hpc : s.pc = .parse pending) :
    Plays file (s.parseMp4SendDataThd file) n begun rest := by
  have hpackets := h.packets
  have hpending := h.pending
  rw [hpc] at hpackets hpending
  obtain ⟨hvideo, hnow, units, pkt, pos, hunparsed, hrest⟩ := hpending
  rw [MediaThread.parseMp4SendDataThd, hpc]
  dsimp only
  split_ifs with hgo
  · obtain ⟨u, units, rfl⟩ := List.exists_cons_of_ne_nil (hunparsed.stat_iff.mp hgo.1)
    exact ⟨h.video, h.audio, h.stat, h.index, hpackets, h.filtered, h.frames, hvideo, hnow, u,
      units, pkt, pos, hunparsed, hrest⟩
  · have hrest' : rest = filteredFrames s.curtimestamp pending ∨ s.runFlag = false := by
      by_cases hunits : units = []
      · left
        rw [hrest, hunits]
        rfl
      · right
        simpa [hunparsed.stat_iff.mpr hunits] using hgo
    exact ⟨h.video, h.audio, h.stat, h.index, hpackets, h.filtered, h.frames, hvideo, hnow, hrest'⟩

theorem call (h : Plays file s n begun rest) {pending : List FilteredPacket}
    (hpc : s.pc = .call pending) :
    ∃ rest, Plays file (s.parseMp4SendDataThd file) n begun rest := by
  have hpackets := h.packets
  have hpending := h.pending
  rw [hpc] at hpackets hpending
  obtain ⟨hvideo, hnow, u, units, pkt, pos, hunparsed, rfl⟩ := hpending
  obtain ⟨hnalu, hturn⟩ := hunparsed.turn
  obtain ⟨hvideoIndex, haudioIndex, hnowIndex⟩ := s.media.praseFrame_streams
  have hnow' : (praseFrame s.media).nowStreamIndex = (praseFrame s.media).videoStreamIndex := by
    rw [hnowIndex, hvideoIndex, hnow, h.video]
  rw [MediaThread.parseMp4SendDataThd, hpc]
  refine ⟨unitFrames s.curtimestamp units ++ filteredFrames s.curtimestamp pending,
    hvideoIndex.trans h.video, haudioIndex.trans h.audio, rfl, h.index, hpackets, h.filtered, ?_,
    hvideo, hnowIndex.trans hnow, units, pkt, _, hturn, rfl⟩
  have hframes := h.frames
  rw [unitFrames, List.map_cons, List.cons_append] at hframes
  dsimp only
  rw [MediaThread.dataCallBack, List.map_append, List.map_singleton, timed_video hnow' hnalu,
    List.append_assoc]
  exact hframes

theorem turn (h : Plays file s n begun rest) :
    ∃ n begun rest, Plays file (s.parseMp4SendDataThd file) n begun rest := by
  have hpackets := h.packets
  have hpending := h.pending
  cases hpc : s.pc with
  | test =>
    rw [hpc] at hpackets hpending
    rw [MediaThread.parseMp4SendDataThd, hpc]
    refine ⟨n, begun, rest, h.video, h.audio, h.stat, h.index, ?_, h.filtered, h.frames, ?_⟩
    · dsimp only
      split_ifs <;> exact hpackets
    · dsimp only
      split_ifs with hrun
      · exact hpending.resolve_right (by simp [hrun])
      · trivial
  | read =>
    rw [MediaThread.parseMp4SendDataThd, hpc]
    exact h.read hpc
  | pace p =>
    rw [hpc] at hpackets hpending
    rw [MediaThread.parseMp4SendDataThd, hpc]
    exact ⟨n, begun, rest, h.video, h.audio, h.stat, h.index, hpackets, h.filtered, h.frames,
      hpending⟩
  | dispatch p => exact h.dispatch hpc
  | filter pending =>
    rw [MediaThread.parseMp4SendDataThd, hpc]
    exact ⟨n, begun, h.filter hpc⟩
  | parse pending => exact ⟨n, begun, rest, h.parse hpc⟩
  | call pending => exact ⟨n, begun, h.call hpc⟩
  | exited =>
    rw [MediaThread.parseMp4SendDataThd, hpc]
    exact ⟨n, begun, rest, h⟩

theorem stop (h : Plays file s n begun rest) :
    Plays file { s with runFlag := false } n begun rest := by
  refine ⟨h.video, h.audio, h.stat, h.index, h.packets, h.filtered, h.frames, ?_⟩
  have hpending := h.pending
  cases hpc : s.pc with
  | test => exact Or.inr rfl
  | filter pending =>
    rw [hpc] at hpending
    exact ⟨hpending.1, hpending.2.1, Or.inr rfl⟩
  | read | pace | dispatch | parse | call | exited =>
    rw [hpc] at hpending
    exact hpending

end Plays

def Playing (file : MediaFile) (s : MediaThread) : Prop :=
  ∃ n begun rest, Plays file s n begun rest

theorem Playing.step {file : MediaFile} {s s' : MediaThread} (h : Playing file s) {l : MediaLabel}
    (hstep : s.step file l = some s') : Playing file s' := by
  obtain ⟨n, begun, rest, h⟩ := h
  cases l with
  | run elapsed =>
    rw [MediaThread.step] at hstep
    split_ifs at hstep
    obtain rfl := Option.some.inj hstep
    exact Plays.turn ⟨h.video, h.audio, h.stat, h.index, h.packets, h.filtered, h.frames, h.pending⟩
  | stop =>
    obtain rfl := Option.some.inj hstep
    exact ⟨n, begun, rest, h.stop⟩

theorem playing_creatMedia (file : MediaFile) (uninit : MediainfoSt) (bufferAudio : List UInt8)
    (clock : Int) : Playing file (.creatMedia file uninit bufferAudio clock) :=
  ⟨1, [], [], rfl, rfl, rfl, file.index, by simp [MediaFile.loop, MediaThread.creatMedia,
    MediaPc.current], rfl, rfl, Or.inl rfl⟩

theorem Playing.calls_prefix {file : MediaFile} {s : MediaThread} (h : Playing file s) :
    ∃ n, s.calls.map MediaCall.timed <+: file.frames [] (file.loop n) := by
  obtain ⟨n, begun, rest, hplays⟩ := h
  refine ⟨n, ?_⟩
  rw [← hplays.packets, List.append_assoc, MediaFile.frames_append, ← hplays.frames,
    List.append_assoc]
  exact List.prefix_append _ _

/-- **The file.** Whatever the thread is interrupted by, and whenever `run_flag` is cleared, the
callbacks are the frames of the file played over and over, each with its time: none is missing,
doubled or out of place. -/
theorem played_reach (file : MediaFile) (uninit : MediainfoSt) (bufferAudio : List UInt8)
    (clock : Int) {s : MediaThread}
    (h : Reach (step file) anyStep (.creatMedia file uninit bufferAudio clock) s) :
    ∃ n, s.calls.map MediaCall.timed <+: file.frames [] (file.loop n) := by
  have hplaying : Playing file s :=
    h.invariant (playing_creatMedia file uninit bufferAudio clock) fun _ _ _ hinv _ hstep =>
      hinv.step hstep
  exact hplaying.calls_prefix

/-- A packet of the video stream, one of a stream that is not played and one of the audio stream. -/
def shortFile : MediaFile where
  videoStreamIndex := 0
  audioStreamIndex := 1
  packets := [⟨0, 0, [0x65]⟩, ⟨2, 20000, [0]⟩, ⟨1, 40000, [7, 8]⟩]
  filter _ := [⟨packetOf (annexB threeUnits), threeUnits, bytes_packetOf _, by decide⟩]
  apart := by decide
  index := by decide

/-- The thread is stopped when it has slept before the packet of the audio stream. -/
def shortRun : List MediaLabel :=
  List.replicate 16 (.run 0) ++ [.run 40000, .stop, .run 0, .run 0]

theorem played_shortRun : ∃ s,
    runs (step shortFile) (.creatMedia shortFile newMedia [] 5) shortRun = some s ∧
      s.calls.length = 4 ∧
      ∃ n, s.calls.map MediaCall.timed <+: shortFile.frames [] (shortFile.loop n) :=
  ⟨_, rfl, rfl, played_reach shortFile newMedia [] 5 (.of_runs shortRun rfl)⟩

/-! ## The time -/

/-- No time is shorter than it is said to be. -/
def Waited (file : MediaFile) (s : MediaThread) : MediaPc → Prop
  | .test | .read => ∃ last, last ≤ s.clock - s.startTime ∧ file.Spaced last s.unread
  | .pace _ =>
    s.curtimestamp < s.clock - s.startTime + 2 ^ 32 ∧ file.Spaced s.curtimestamp s.unread
  | .dispatch _ | .filter _ | .parse _ | .call _ =>
    s.curtimestamp ≤ s.clock - s.startTime ∧ file.Spaced s.curtimestamp s.unread
  | .exited => True

structure Punctual (file : MediaFile) (s : MediaThread) : Prop where
  waited : Waited file s s.pc
  calls : ∀ call ∈ s.calls, call.startTime + call.curtimestamp ≤ call.time

namespace Punctual

variable {file : MediaFile} {s : MediaThread}

theorem dataCallBack (h : ∀ call ∈ s.calls, call.startTime + call.curtimestamp ≤ call.time)
    (m : MediainfoSt) (htime : s.curtimestamp ≤ s.clock - s.startTime) :
    ∀ call ∈ (s.dataCallBack m).calls, call.startTime + call.curtimestamp ≤ call.time := by
  intro call hcall
  obtain hcall | hcall := List.mem_append.mp hcall
  · exact h call hcall
  · obtain rfl := List.mem_singleton.mp hcall
    dsimp only
    omega

theorem read (hvideo : s.media.videoStreamIndex = file.videoStreamIndex)
    (haudio : s.media.audioStreamIndex = file.audioStreamIndex)
    (hspaced : file.Spaced 0 file.packets) (h : Punctual file s) (hpc : s.pc = .read) :
    Punctual file (s.avReadFrame file) := by
  have hwaited := h.waited
  rw [hpc] at hwaited
  obtain ⟨last, hlast, hrest⟩ := hwaited
  rw [MediaThread.avReadFrame]
  cases hunread : s.unread with
  | nil => exact ⟨⟨0, by dsimp only; omega, hspaced⟩, h.calls⟩
  | cons p ps =>
    rw [hunread, MediaFile.Spaced] at hrest
    dsimp only
    have hplayed : file.isPlayed p = true ↔
        p.streamIndex = s.media.videoStreamIndex ∨ p.streamIndex = s.media.audioStreamIndex := by
      rw [hvideo, haudio]
      simp [MediaFile.isPlayed, MediaFile.isVideo, MediaFile.isAudio]
    split_ifs with hv ha
    · rw [if_pos (hplayed.mpr (Or.inl hv))] at hrest
      exact ⟨⟨by dsimp only; omega, hrest.2⟩, h.calls⟩
    · rw [if_pos (hplayed.mpr (Or.inr ha))] at hrest
      exact ⟨⟨by dsimp only; omega, hrest.2⟩, h.calls⟩
    · rw [if_neg (by rw [hplayed]; exact not_or.mpr ⟨hv, ha⟩)] at hrest
      refine ⟨?_, h.calls⟩
      dsimp only
      rw [hpc]
      exact ⟨last, hlast, hrest⟩

theorem pace (h : Punctual file s) {p : DemuxedPacket} (hpc : s.pc = .pace p)
    {elapsed : Nat} (hwait : s.wait ≤ elapsed) :
    s.curtimestamp ≤ s.clock + elapsed - s.startTime := by
  have hwaited := h.waited
  rw [hpc] at hwaited
  obtain ⟨hnear, -⟩ := hwaited
  rw [MediaThread.wait, hpc] at hwait
  dsimp only at hwait
  split_ifs at hwait with hlate
  · rw [MediaThread.avUsleep, Int.emod_eq_of_lt (by omega) (by omega)] at hwait
    omega
  · omega

theorem later (h : Punctual file s) (elapsed : Nat) :
    Punctual file { s with clock := s.clock + elapsed } := by
  refine ⟨?_, h.calls⟩
  have hwaited := h.waited
  cases hpc : s.pc with
  | test | read =>
    rw [hpc] at hwaited
    obtain ⟨last, hlast, hrest⟩ := hwaited
    exact ⟨last, by dsimp only; omega, hrest⟩
  | pace | dispatch | filter | parse | call =>
    rw [hpc] at hwaited
    obtain ⟨htime, hrest⟩ := hwaited
    exact ⟨by dsimp only; omega, hrest⟩
  | exited => trivial

theorem turn (hvideo : s.media.videoStreamIndex = file.videoStreamIndex)
    (haudio : s.media.audioStreamIndex = file.audioStreamIndex)
    (hspaced : file.Spaced 0 file.packets) (h : Punctual file s)
    (hpace : ∀ p, s.pc = .pace p → s.curtimestamp ≤ s.clock - s.startTime) :
    Punctual file (s.parseMp4SendDataThd file) := by
  have hwaited := h.waited
  unfold MediaThread.parseMp4SendDataThd
  cases hpc : s.pc with
  | test =>
    rw [hpc] at hwaited
    refine ⟨?_, h.calls⟩
    dsimp only
    split_ifs
    · exact hwaited
    · trivial
  | read => exact h.read hvideo haudio hspaced hpc
  | pace p =>
    rw [hpc] at hwaited
    exact ⟨⟨hpace p hpc, hwaited.2⟩, h.calls⟩
  | dispatch p =>
    rw [hpc] at hwaited
    dsimp only
    split_ifs
    · exact ⟨hwaited, h.calls⟩
    · exact ⟨⟨_, hwaited⟩, dataCallBack h.calls _ hwaited.1⟩
    · exact ⟨⟨_, hwaited⟩, h.calls⟩
  | filter pending =>
    rw [hpc] at hwaited
    dsimp only
    unfold MediaThread.avBsfReceivePacket
    split_ifs
    · cases pending with
      | nil => exact ⟨⟨_, hwaited⟩, h.calls⟩
      | cons f pending => exact ⟨hwaited, h.calls⟩
    · exact ⟨⟨_, hwaited⟩, h.calls⟩
  | parse pending =>
    rw [hpc] at hwaited
    refine ⟨?_, h.calls⟩
    dsimp only
    split_ifs <;> exact hwaited
  | call pending =>
    rw [hpc] at hwaited
    exact ⟨hwaited, dataCallBack h.calls _ hwaited.1⟩
  | exited => exact h

theorem step (hplaying : Playing file s) (hspaced : file.Spaced 0 file.packets)
    (h : Punctual file s) {l : MediaLabel} {s' : MediaThread} (hstep : s.step file l = some s') :
    Punctual file s' := by
  cases l with
  | run elapsed =>
    obtain ⟨n, begun, rest, hplays⟩ := hplaying
    rw [MediaThread.step] at hstep
    split_ifs at hstep with hblocked
    obtain rfl := Option.some.inj hstep
    refine (h.later elapsed).turn hplays.video hplays.audio hspaced fun p hpc => ?_
    exact h.pace hpc (Nat.le_of_not_lt fun hlt => hblocked (Or.inr hlt))
  | stop =>
    obtain rfl := Option.some.inj hstep
    refine ⟨?_, h.calls⟩
    have hwaited := h.waited
    cases hpc : s.pc <;> rw [hpc] at hwaited <;> exact hwaited

end Punctual

/-- **The time.** If the packets are not too far apart, every callback is made when the time of its
packet has come, or later. -/
theorem punctual_reach (file : MediaFile) (hspaced : file.Spaced 0 file.packets)
    (uninit : MediainfoSt) (bufferAudio : List UInt8) (clock : Int) {s : MediaThread}
    (h : Reach (step file) anyStep (.creatMedia file uninit bufferAudio clock) s) :
    ∀ call ∈ s.calls, call.startTime + call.curtimestamp ≤ call.time := by
  have hstart : Punctual file (.creatMedia file uninit bufferAudio clock) :=
    ⟨⟨0, by simp [MediaThread.creatMedia], hspaced⟩, by simp [MediaThread.creatMedia]⟩
  have hboth : Playing file s ∧ Punctual file s :=
    @Reach.invariant _ _ _ _ _ _ (fun s => Playing file s ∧ Punctual file s) h
      ⟨playing_creatMedia file uninit bufferAudio clock, hstart⟩ fun _ _ _ hinv _ hstep =>
        ⟨hinv.1.step hstep, hinv.2.step hinv.1 hspaced hstep⟩
  exact hboth.2.calls

theorem punctual_shortRun : ∃ s,
    runs (step shortFile) (.creatMedia shortFile newMedia [] 5) shortRun = some s ∧
      s.calls.map (·.time) = [5, 5, 5, 40005] ∧
      ∀ call ∈ s.calls, call.startTime + call.curtimestamp ≤ call.time :=
  ⟨_, rfl, rfl, punctual_reach shortFile ⟨by decide, by decide, trivial⟩ newMedia [] 5
    (.of_runs shortRun rfl)⟩

end MediaThread

/-! ## The end -/

def MediaLabel.isRun : MediaLabel → Bool
  | .run _ => true
  | .stop => false

namespace MediaPc

/-- How many turns the thread has left at most when `run_flag` is cleared and `unread` packets are
not read yet. -/
def rank (unread : Nat) : MediaPc → Nat
  | .exited => 0
  | .test => 1
  | .filter _ => 2
  | .parse _ | .dispatch _ => 3
  | .call _ | .pace _ => 4
  | .read => unread + 5

/-- How many callbacks it then makes at most. -/
def callsLeft : MediaPc → Nat
  | .exited | .test | .filter _ | .parse _ => 0
  | .dispatch _ | .call _ | .pace _ | .read => 1

theorem rank_le (pc : MediaPc) (unread : Nat) : pc.rank unread ≤ unread + 5 := by
  cases pc <;> dsimp only [rank] <;> omega

theorem callsLeft_le (pc : MediaPc) : pc.callsLeft ≤ 1 := by
  cases pc <;> dsimp only [callsLeft] <;> omega

end MediaPc

namespace MediaThread

/-- `run_flag` is cleared, and no more than `n` callbacks will have been made. -/
structure Ending (n : Nat) (s : MediaThread) : Prop where
  runFlag : s.runFlag = false
  calls : s.calls.length + s.pc.callsLeft ≤ n

def rank (s : MediaThread) : Nat := s.pc.rank s.unread.length

theorem length_dataCallBack (m : MediainfoSt) (s : MediaThread) :
    (s.dataCallBack m).calls.length = s.calls.length + 1 := by
  rw [dataCallBack, List.length_append]
  rfl

namespace Ending

variable {file : MediaFile} {n : Nat} {s : MediaThread}

theorem read (h : Ending n s) (hpc : s.pc = .read) :
    Ending n (s.avReadFrame file) ∧ (s.avReadFrame file).rank + 1 ≤ s.rank := by
  have hcalls := h.calls
  rw [hpc] at hcalls
  rw [rank, rank, hpc, avReadFrame]
  cases hunread : s.unread with
  | nil => exact ⟨⟨h.runFlag, Nat.le_of_succ_le hcalls⟩, by dsimp only [MediaPc.rank]; omega⟩
  | cons p ps =>
    dsimp only
    split_ifs
    · exact ⟨⟨h.runFlag, hcalls⟩, by dsimp only [MediaPc.rank]; omega⟩
    · exact ⟨⟨h.runFlag, hcalls⟩, by dsimp only [MediaPc.rank]; omega⟩
    · exact ⟨⟨h.runFlag, h.calls⟩, by rw [hpc, List.length_cons]; dsimp only [MediaPc.rank]; omega⟩

/-- A turn without `run_flag` leads towards the end. -/
theorem turn (h : Ending n s) (hover : ¬ s.isOver) : Ending n (s.parseMp4SendDataThd file) ∧
    (s.parseMp4SendDataThd file).rank + 1 ≤ s.rank := by
  have hrun := h.runFlag
  have hcalls := h.calls
  unfold parseMp4SendDataThd
  cases hpc : s.pc with
  | test =>
    rw [hpc] at hcalls
    rw [rank, rank, hpc, hrun]
    exact ⟨⟨rfl, hcalls⟩, Nat.le_refl _⟩
  | read => exact h.read hpc
  | pace p =>
    rw [hpc] at hcalls
    rw [rank, rank, hpc]
    exact ⟨⟨hrun, hcalls⟩, Nat.le_refl _⟩
  | dispatch p =>
    rw [hpc] at hcalls
    rw [rank, rank, hpc]
    dsimp only
    split_ifs
    · exact ⟨⟨hrun, Nat.le_of_succ_le hcalls⟩, Nat.le_refl _⟩
    · refine ⟨⟨hrun, ?_⟩, Nat.le_succ 2⟩
      dsimp only
      rw [length_dataCallBack]
      exact hcalls
    · exact ⟨⟨hrun, Nat.le_of_succ_le hcalls⟩, Nat.le_succ 2⟩
  | filter pending =>
    rw [hpc] at hcalls
    rw [rank, rank, hpc]
    dsimp only
    unfold avBsfReceivePacket
    rw [if_neg (by simp [hrun])]
    exact ⟨⟨hrun, hcalls⟩, Nat.le_refl _⟩
  | parse pending =>
    rw [hpc] at hcalls
    rw [rank, rank, hpc]
    dsimp only
    rw [if_neg (by simp [hrun])]
    exact ⟨⟨hrun, hcalls⟩, Nat.le_refl _⟩
  | call pending =>
    rw [hpc] at hcalls
    rw [rank, rank, hpc]
    refine ⟨⟨hrun, ?_⟩, Nat.le_refl _⟩
    dsimp only
    rw [length_dataCallBack]
    exact hcalls
  | exited =>
    rw [isOver, hpc] at hover
    exact absurd rfl hover

theorem step (h : Ending n s) {l : MediaLabel} {s' : MediaThread}
    (hstep : s.step file l = some s') :
    Ending n s' ∧ s'.rank + (if l.isRun then 1 else 0) ≤ s.rank := by
  cases l with
  | run elapsed =>
    rw [MediaThread.step] at hstep
    split_ifs at hstep with hblocked
    obtain rfl := Option.some.inj hstep
    have hlater : Ending n { s with clock := s.clock + elapsed } := ⟨h.runFlag, h.calls⟩
    exact hlater.turn fun hover => hblocked (Or.inl hover)
  | stop =>
    obtain rfl := Option.some.inj hstep
    exact ⟨⟨rfl, h.calls⟩, Nat.le_refl _⟩

end Ending

/-- **The end.** Once `run_flag` is cleared, wherever the thread is, it makes at most one more
callback, takes few more turns, and only the end keeps it from another one. So `pthread_join`
returns. -/
theorem ends_destroyed (file : MediaFile) (s : MediaThread) (labels : List MediaLabel)
    {s' : MediaThread} (h : runs (step file) { s with runFlag := false } labels = some s') :
    s'.calls.length ≤ s.calls.length + 1 ∧
      labels.countP MediaLabel.isRun ≤ s.unread.length + 5 ∧
      (s'.isOver ∨ ∃ elapsed s'', s'.step file (.run elapsed) = some s'') := by
  have hstart : Ending (s.calls.length + 1) { s with runFlag := false } :=
    ⟨rfl, Nat.add_le_add_left s.pc.callsLeft_le _⟩
  obtain ⟨hending, hrank⟩ := runs_rank (fun _ _ _ hinv hstep => Ending.step hinv hstep) hstart
    labels h
  have hfirst : rank { s with runFlag := false } ≤ s.unread.length + 5 := s.pc.rank_le _
  have hturns : labels.countP MediaLabel.isRun ≤ s.unread.length + 5 :=
    (Nat.le_add_left _ _).trans (hrank.trans hfirst)
  refine ⟨(Nat.le_add_right _ _).trans hending.calls, hturns, ?_⟩
  by_cases hover : s'.isOver
  · exact Or.inl hover
  · exact Or.inr ⟨s'.wait, _, if_neg (by simp [hover])⟩

/-- `run_flag` is cleared in front of the first callback, with two packets unread: that callback is
still made, and no other. -/
theorem ends_atCall : ∃ s pending s',
    runs (step shortFile) (creatMedia shortFile newMedia [] 5) (List.replicate 6 (.run 0)) =
        some s ∧
      s.pc = .call pending ∧ s.unread.length = 2 ∧ s.calls.length = 0 ∧
      runs (step shortFile) { s with runFlag := false } (List.replicate 4 (.run 0)) = some s' ∧
      s'.calls.length = 1 ∧ s'.calls.length ≤ s.calls.length + 1 ∧
      (List.replicate 4 (MediaLabel.run 0)).countP MediaLabel.isRun ≤ s.unread.length + 5 ∧
      (s'.isOver ∨ ∃ elapsed s'', s'.step shortFile (.run elapsed) = some s'') :=
  ⟨_, _, _, rfl, rfl, rfl, rfl, rfl, rfl, ends_destroyed shortFile _ _ rfl⟩

end MediaThread

end SimpleRtsp
