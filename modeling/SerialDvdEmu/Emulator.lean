import SerialDvdEmu.Base.Decimal
import SerialDvdEmu.VictorPacket
import SerialDvdEmu.VideoPlayer

/-! The global state of the emulator: the player, the two receivers and the file that keeps the
JLIP ID. main sets up one of the receivers; both are here because either drives the player. -/
namespace SerialDvdEmu
open VictorPacket (Packet)
open VideoPlayer (VideoState)

/-- What `%d` stores for a number that no `int` can hold, which C leaves open. -/
class Scanf where
  wide : Int → Int32

def Scanf.store [Scanf] (n : Int) : Int32 :=
  if -2147483648 ≤ n ∧ n < 2147483648 then Int32.ofInt n else Scanf.wide n

theorem Scanf.storeInt [Scanf] (n : Int32) : Scanf.store n.toInt = n := by
  have low := n.le_toInt
  have high := n.toInt_lt
  rw [Scanf.store, if_pos ⟨by simpa using low, by simpa using high⟩, Int32.ofInt_toInt]

inductive DvdType where
  | dvd
  | vcd
  deriving DecidableEq, Repr

structure VictorState where
  jlipId : UInt32
  dvdType : DvdType
  packet : Packet
  response : Option Packet

structure ToshibaState where
  packet : Vector UInt8 256
  response : Vector UInt8 256

structure Emulator (Q : Type) where
  video : VideoState Q
  victor : VictorState
  toshiba : ToshibaState
  jlipIdFile : Option (List UInt8)

def Emulator.start {Q : Type} (queue : Q) (chapters : Int32)
    (jlipIdFile : Option (List UInt8)) : Emulator Q where
  video := VideoPlayer.videoInit queue chapters
  victor := ⟨0, .dvd, Vector.replicate 11 0, none⟩
  toshiba := ⟨Vector.replicate 256 0, Vector.replicate 256 0⟩
  jlipIdFile := jlipIdFile

/-- What the emulator meets: something comes over the line, anyone calls the player, or the worker
has run. -/
inductive Happening (ι ω : Type) where
  | input (i : ι)
  | call (c : VideoState.Call)
  | worked (w : ω)
  deriving DecidableEq, Repr

def Emulator.happen {Q ι ω : Type} [VideoPlayer.CommandQueue Q]
    (receive : Emulator Q → ι → Emulator Q) (work : ω → Q → Q) (e : Emulator Q) :
    Happening ι ω → Emulator Q
  | .input i => receive e i
  | .call c => { e with video := e.video.call c }
  | .worked w => { e with video := { e.video with queue := work w e.video.queue } }

def leaves {Q : Type} (queue : Q) (_ : Q) : Q := queue

end SerialDvdEmu
