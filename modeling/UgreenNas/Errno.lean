import Mathlib.Algebra.Order.Ring.Int
import Mathlib.Control.Monad.Basic
import Mathlib.Data.UInt

/-! # Error numbers and machine words

    A C function of the repository reports failure by returning `-e` for an
    error number `e`; success is 0.  An `Errno` can therefore never be 0,
    and the kernel's range `1 .. 4095` keeps its negation a negative `int`.
-/

namespace UgreenNas

/-- An error number as the kernel and libc hand it out. -/
structure Errno where
  code : Nat
  pos : 0 < code
  le : code ≤ 4095
  deriving DecidableEq, Repr

namespace Errno

def EPERM : Errno := ⟨1, by decide, by decide⟩
def ENOENT : Errno := ⟨2, by decide, by decide⟩
def EINTR : Errno := ⟨4, by decide, by decide⟩
def EIO : Errno := ⟨5, by decide, by decide⟩
def E2BIG : Errno := ⟨7, by decide, by decide⟩
def EAGAIN : Errno := ⟨11, by decide, by decide⟩
def ENOMEM : Errno := ⟨12, by decide, by decide⟩
def EACCES : Errno := ⟨13, by decide, by decide⟩
def EBUSY : Errno := ⟨16, by decide, by decide⟩
def EEXIST : Errno := ⟨17, by decide, by decide⟩
def ENODEV : Errno := ⟨19, by decide, by decide⟩
def ENOTDIR : Errno := ⟨20, by decide, by decide⟩
def EINVAL : Errno := ⟨22, by decide, by decide⟩
def EPIPE : Errno := ⟨32, by decide, by decide⟩
def ERANGE : Errno := ⟨34, by decide, by decide⟩
def ENAMETOOLONG : Errno := ⟨36, by decide, by decide⟩
def ENODATA : Errno := ⟨61, by decide, by decide⟩
def EPROTO : Errno := ⟨71, by decide, by decide⟩
def EBADMSG : Errno := ⟨74, by decide, by decide⟩
def EOVERFLOW : Errno := ⟨75, by decide, by decide⟩
def ENOTSUP : Errno := ⟨95, by decide, by decide⟩
/-- Another name of it. -/
def EOPNOTSUPP : Errno := ENOTSUP
def ECONNRESET : Errno := ⟨104, by decide, by decide⟩
def ENOTCONN : Errno := ⟨107, by decide, by decide⟩
def ETIMEDOUT : Errno := ⟨110, by decide, by decide⟩
def ESTALE : Errno := ⟨116, by decide, by decide⟩
def EUCLEAN : Errno := ⟨117, by decide, by decide⟩

end Errno

/-- Conversion of an arithmetic result to `unsigned int`. -/
def u32 (x : Int) : Nat := (x % 2 ^ 32).toNat

/-- Conversion of an arithmetic result to `unsigned long`. -/
def u64 (x : Int) : Nat := (x % 2 ^ 64).toNat

end UgreenNas
