import Mathlib.Data.Nat.Init

/-!
# The terminal of the host

The constructor of `COM1` puts a terminal on the standard input into raw mode and
registers a function which restores it when the program exits.  The flags are
those of `termios`; what the program neither reads nor changes of it is left out.
-/

namespace Lvmm.Device.HostTerminal

/-! ## `termios` -/

def brkint : UInt32 := 0x2
def ignbrk : UInt32 := 0x1
def parmrk : UInt32 := 0x8
def istrip : UInt32 := 0x20
def inlcr : UInt32 := 0x40
def igncr : UInt32 := 0x80
def icrnl : UInt32 := 0x100
def ixon : UInt32 := 0x400
def opost : UInt32 := 0x1
def onlcr : UInt32 := 0x4
def isig : UInt32 := 0x1
def icanon : UInt32 := 0x2
def echo : UInt32 := 0x8
def echonl : UInt32 := 0x40
def iexten : UInt32 := 0x8000
def csize : UInt32 := 0x30
def cs8 : UInt32 := 0x30
def parenb : UInt32 := 0x100
def vtime : Fin 32 := 5
def vmin : Fin 32 := 6

/-- `termios`: the four flag words and the control characters. -/
structure Termios where
  iflag : UInt32
  oflag : UInt32
  cflag : UInt32
  lflag : UInt32
  cc : Vector UInt8 32
deriving DecidableEq

/-- The input flags which `cfmakeraw` clears. -/
def rawIflag : UInt32 :=
  ignbrk ||| brkint ||| parmrk ||| istrip ||| inlcr ||| igncr ||| icrnl |||
    ixon

/-- The local flags which `cfmakeraw` clears. -/
def rawLflag : UInt32 :=
  echo ||| echonl ||| icanon ||| isig ||| iexten

/-- `cfmakeraw` of the C library. -/
def cfmakeraw (attributes : Termios) : Termios :=
  { attributes with
    iflag := attributes.iflag &&& ~~~rawIflag
    oflag := attributes.oflag &&& ~~~opost
    cflag := attributes.cflag &&& ~~~(csize ||| parenb) ||| cs8
    lflag := attributes.lflag &&& ~~~rawLflag }

/-- What the constructor of `COM1` makes of the saved attributes. -/
def rawAttributes (saved : Termios) : Termios :=
  let raw := cfmakeraw saved
  { raw with
    oflag := raw.oflag ||| (opost ||| onlcr)
    cc := (raw.cc.set vmin 1).set vtime 0 }

/-- What the calls on the terminal answer. -/
structure TerminalAnswers where
  isatty : Bool
  tcgetattr : Bool
  setRaw : Bool
  restore : Bool
deriving DecidableEq

/-- The terminal, and what `g_termios_to_restore` points to. -/
structure Terminal where
  attributes : Termios
  saved : Option Termios
deriving DecidableEq

/-- The part of `COM1::COM1` about the terminal. -/
def Terminal.construct (answers : TerminalAnswers) (terminal : Terminal) :
    Terminal :=
  if answers.isatty then
    if answers.tcgetattr then
      { attributes :=
          if answers.setRaw then rawAttributes terminal.attributes
          else terminal.attributes
        saved := some terminal.attributes }
    else terminal
  else terminal

/-- `restore_termios_atexit`. -/
def Terminal.restoreAtExit (answers : TerminalAnswers) (terminal : Terminal) :
    Terminal :=
  match terminal.saved with
  | none => terminal
  | some saved =>
      { terminal with
        attributes :=
          if answers.restore then saved else terminal.attributes }

/-! ## Raw mode -/

/-- Bytes pass the terminal one by one and as they are. -/
structure PassesBytes (attributes : Termios) : Prop where
  /-- No input byte is dropped, mapped or stripped, and none stops the output. -/
  input : attributes.iflag &&& rawIflag = 0
  /-- None is echoed, held back for a line, or turned into a signal. -/
  unprocessed : attributes.lflag &&& rawLflag = 0
  eightBits : attributes.cflag &&& (csize ||| parenb) = cs8
  /-- A `read` waits for one byte, and for no longer. -/
  oneByte : attributes.cc[vmin] = 1 ∧ attributes.cc[vtime] = 0
  /-- A line feed is still sent as a carriage return and a line feed. -/
  output : attributes.oflag &&& (opost ||| onlcr) = opost ||| onlcr

/-- The attributes differ in nothing else. -/
structure OtherwiseSame (saved raw : Termios) : Prop where
  iflag : raw.iflag &&& ~~~rawIflag = saved.iflag &&& ~~~rawIflag
  lflag : raw.lflag &&& ~~~rawLflag = saved.lflag &&& ~~~rawLflag
  cflag :
    raw.cflag &&& ~~~(csize ||| parenb) =
      saved.cflag &&& ~~~(csize ||| parenb)
  oflag :
    raw.oflag &&& ~~~(opost ||| onlcr) = saved.oflag &&& ~~~(opost ||| onlcr)
  cc : ∀ index : Fin 32, index ≠ vmin → index ≠ vtime →
    raw.cc[index] = saved.cc[index]

theorem clear_and (word mask : UInt32) : word &&& ~~~mask &&& mask = 0 := by
  rw [UInt32.and_assoc, UInt32.and_comm (~~~mask), UInt32.and_not_self]
  exact UInt32.and_zero

theorem clear_clear (word mask : UInt32) :
    word &&& ~~~mask &&& ~~~mask = word &&& ~~~mask := by
  rw [UInt32.and_assoc, UInt32.and_self]

/-- A word is masked with what is added to it. -/
theorem or_and (word added mask : UInt32) :
    (word ||| added) &&& mask = word &&& mask ||| added &&& mask := by
  apply UInt32.toBitVec_inj.mp
  ext bit
  simp [Bool.and_or_distrib_right]

theorem and_or_self (word mask : UInt32) : word &&& mask ||| mask = mask := by
  apply UInt32.toBitVec_inj.mp
  ext bit
  simp

theorem passesBytes_raw (saved : Termios) :
    PassesBytes (rawAttributes saved) := by
  constructor
  · exact clear_and saved.iflag rawIflag
  · exact clear_and saved.lflag rawLflag
  · calc
      (rawAttributes saved).cflag &&& (csize ||| parenb)
      _ = saved.cflag &&& ~~~(csize ||| parenb) &&& (csize ||| parenb) |||
            cs8 &&& (csize ||| parenb) := or_and _ _ _
      _ = 0 ||| cs8 &&& (csize ||| parenb) := by rw [clear_and]
      _ = cs8 := by decide
  · have apart : (vtime : Nat) ≠ vmin := by decide
    refine ⟨?_, ?_⟩
    · simp [rawAttributes, apart]
    · simp [rawAttributes]
  · calc
      (rawAttributes saved).oflag &&& (opost ||| onlcr)
      _ = saved.oflag &&& ~~~opost &&& (opost ||| onlcr) |||
            (opost ||| onlcr) &&& (opost ||| onlcr) := or_and _ _ _
      _ = saved.oflag &&& ~~~opost &&& (opost ||| onlcr) |||
            (opost ||| onlcr) := by rw [UInt32.and_self]
      _ = opost ||| onlcr := and_or_self _ _

theorem otherwiseSame_raw (saved : Termios) :
    OtherwiseSame saved (rawAttributes saved) := by
  constructor
  · exact clear_clear saved.iflag rawIflag
  · exact clear_clear saved.lflag rawLflag
  · calc
      (rawAttributes saved).cflag &&& ~~~(csize ||| parenb)
      _ = saved.cflag &&& ~~~(csize ||| parenb) &&& ~~~(csize ||| parenb) |||
            cs8 &&& ~~~(csize ||| parenb) := or_and _ _ _
      _ = saved.cflag &&& ~~~(csize ||| parenb) ||| 0 := by
          rw [clear_clear]
          rfl
      _ = saved.cflag &&& ~~~(csize ||| parenb) := UInt32.or_zero
  · calc
      (rawAttributes saved).oflag &&& ~~~(opost ||| onlcr)
      _ = saved.oflag &&& ~~~opost &&& ~~~(opost ||| onlcr) |||
            (opost ||| onlcr) &&& ~~~(opost ||| onlcr) := or_and _ _ _
      _ = saved.oflag &&& (~~~opost &&& ~~~(opost ||| onlcr)) ||| 0 := by
          rw [UInt32.and_assoc, UInt32.and_not_self]
      _ = saved.oflag &&& ~~~(opost ||| onlcr) := UInt32.or_zero
  · intro index notMin notTime
    have apartMin : (vmin : Nat) ≠ index :=
      fun same => notMin (Fin.ext same.symm)
    have apartTime : (vtime : Nat) ≠ index :=
      fun same => notTime (Fin.ext same.symm)
    simp [rawAttributes, cfmakeraw, apartMin, apartTime]

end Lvmm.Device.HostTerminal
