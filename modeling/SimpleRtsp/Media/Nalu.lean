import SimpleRtsp.Session.Client

/-!
# NAL units of a packet

A packet of the video stream leaves the bitstream filter as NAL units behind start codes.
`getNALUFromBuf` takes the next of them from the buffer, `praseFrame` puts it into the frame, and
the inner loop of `parseMp4SendDataThd` makes the callback for the frame and goes on as long as the
buffer is to be read (`parseLoop`). `getVideoNALUWithoutStartCode` is what the callback gets to see.
-/

namespace SimpleRtsp

/-! ## The structures -/

/-- `enum BufFrame_e`. -/
inductive BufFrameE where
  | read
  | write
  | over
  deriving DecidableEq, Repr

/-- An allocation: where it is (NULL is 0) and the bytes from there on. -/
structure Block where
  addr : Nat
  mem : Mem

structure Ptr where
  block : Block
  off : Nat

/-- What the bitstream filter delivers: `size` bytes and zeros behind them, of which the code looks
at four. -/
structure AVPacket where
  data : Block
  size : Nat
  padded : ∀ i < 4, data.mem (size + i) = 0

def AVPacket.bytes (pkt : AVPacket) : List UInt8 := pkt.data.mem.read 0 pkt.size

structure BufSt where
  buf : Block
  bufSize : Nat
  stat : BufFrameE
  pos : Nat

structure FrameSt where
  frame : Ptr
  frameSize : Int
  startCode : Int
  stat : BufFrameE

/-- The fields of `mediainfo_st` that parsing uses. -/
structure MediainfoSt where
  videoStreamIndex : Int
  audioStreamIndex : Int
  nowStreamIndex : Int
  buffer : BufSt
  frame : FrameSt

/-! ## Taking a NAL unit -/

def startCode3 (buf : Mem) (off : Nat) : Bool :=
  buf off == 0 && buf (off + 1) == 0 && buf (off + 2) == 1

def startCode4 (buf : Mem) (off : Nat) : Bool :=
  buf off == 0 && buf (off + 1) == 0 && buf (off + 2) == 0 && buf (off + 3) == 1

/-- The test of the loop in `getNALUFromBuf`. -/
def startCode34 (buf : Mem) (tmp : Nat) : Bool := startCode3 buf tmp || startCode4 buf tmp

/-- `frame_size` as `getNALUFromBuf` computes it at a start code; `tmp` runs over as many positions
as the loop has turns. -/
def naluSize (buf : BufSt) (startCode : Nat) : Nat :=
  match (List.range' (buf.pos + startCode) (buf.bufSize - buf.pos - 3)).find?
      (startCode34 buf.buf.mem) with
  | some tmp => tmp - buf.pos
  | none => buf.bufSize - buf.pos

/-- The size of the NAL unit with its start code, or -1; `*frame` and the buffer afterwards. -/
def getNALUFromBuf (frame : Ptr) (buf : BufSt) : Int × Ptr × BufSt :=
  if buf.bufSize ≤ buf.pos then (-1, frame, { buf with stat := .write })
  else if !startCode34 buf.buf.mem buf.pos then (-1, frame, buf)
  else
    let startCode := if startCode3 buf.buf.mem buf.pos then 3 else 4
    let frameSize := naluSize buf startCode
    (frameSize, ⟨buf.buf, buf.pos⟩,
      { buf with
        pos := buf.pos + frameSize
        stat := if buf.bufSize ≤ buf.pos + frameSize then .write else buf.stat })

def praseFrame (m : MediainfoSt) : MediainfoSt :=
  if m.frame.stat = .read ∨ m.buffer.stat = .write then m
  else
    let (frameSize, frame, buffer) := getNALUFromBuf m.frame.frame m.buffer
    if frameSize < 0 then
      { m with buffer := buffer, frame := { m.frame with frame := frame, frameSize := frameSize } }
    else
      { m with
        buffer := buffer
        frame :=
          { frame := frame
            frameSize := frameSize
            startCode := if startCode3 frame.block.mem frame.off then 3 else 4
            stat := .read } }

/-! ## The callback -/

/-- A pointer and a length; nothing keeps them inside the block. -/
structure Slice where
  block : Block
  off : Int
  len : Int

def Slice.bytes (s : Slice) : List UInt8 := s.block.mem.read s.off.toNat s.len.toNat

namespace MediainfoSt

/-- The slice is `none` when the function returns -1. The test of the source assigns (`=` for `==`):
it is always true and leaves the frame to be read. -/
def getVideoNALUWithoutStartCode (m : MediainfoSt) : Option Slice × MediainfoSt :=
  if m.nowStreamIndex = m.audioStreamIndex then (none, m)
  else
    (some ⟨m.frame.frame.block, m.frame.frame.off + m.frame.startCode,
      m.frame.frameSize - m.frame.startCode⟩, { m with frame := { m.frame with stat := .read } })

/-- What a callback copies for a client. -/
def exposed (m : MediainfoSt) : Option Slice := m.getVideoNALUWithoutStartCode.1

def view (m : MediainfoSt) (bufferAudio : List UInt8) : Mediainfo where
  videoStreamIndex := m.videoStreamIndex
  audioStreamIndex := m.audioStreamIndex
  nowStreamIndex := m.nowStreamIndex
  frame := (m.exposed.map Slice.bytes).getD []
  bufferAudio := bufferAudio

theorem view_getVideoNALUWithoutStartCode (m : MediainfoSt) (bufferAudio : List UInt8) :
    (m.view bufferAudio).getVideoNALUWithoutStartCode = (m.exposed.map Slice.bytes).getD [] := by
  rw [Mediainfo.getVideoNALUWithoutStartCode]
  split_ifs with h
  · have hnow : m.nowStreamIndex = m.audioStreamIndex := h
    have hnone : m.exposed = none := by
      rw [exposed, getVideoNALUWithoutStartCode, if_pos hnow]
    rw [hnone]
    rfl
  · rfl

/-! ## The loop -/

/-- A packet of the video stream is received. -/
def receive (m : MediainfoSt) (pkt : AVPacket) : MediainfoSt :=
  { m with nowStreamIndex := m.videoStreamIndex, buffer := ⟨pkt.data, pkt.size, .read, 0⟩ }

/-- A turn of the loop. Between `praseFrame` and this the callback may have made the frame readable
again. -/
def turn (m : MediainfoSt) : MediainfoSt :=
  { praseFrame m with frame := { (praseFrame m).frame with stat := .write } }

/-- The first turns of the loop, while `run_flag` stays 1: the states in which the callback is made,
and the state that is reached. -/
def parseLoop : Nat → MediainfoSt → List MediainfoSt × MediainfoSt
  | 0, m => ([], m)
  | n + 1, m =>
    if m.buffer.stat = .read then
      let rest := parseLoop n m.turn
      (praseFrame m :: rest.1, rest.2)
    else ([], m)

/-- The loop is over after `n` turns. -/
def Over (n : Nat) (m : MediainfoSt) : Prop := (parseLoop n m).2.buffer.stat ≠ .read

/-- What `creatMedia` and the packets up to now can have left behind. The streams are those of a
file with video; the frame of a new `mediainfo_st` is partly uninitialised. -/
inductive Between : MediainfoSt → Prop
  | creatMedia {m : MediainfoSt} : 0 ≤ m.videoStreamIndex →
      m.videoStreamIndex ≠ m.audioStreamIndex → m.frame.stat = .write → Between m
  | parsed {m : MediainfoSt} {n : Nat} (pkt : AVPacket) : Between m → Over n (m.receive pkt) →
      Between (parseLoop n (m.receive pkt)).2

end MediainfoSt

end SimpleRtsp
