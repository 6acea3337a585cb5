/-!
The greatest and least numbers that words of 32 and 64 bits hold.
-/

namespace DaemonLaunch.Bounds

def mostSigned32 : Int := 0x7fffffff

def leastSigned32 : Int := -0x80000000

def mostSigned64 : Int := 0x7fffffffffffffff

def leastSigned64 : Int := -0x8000000000000000

def mostUnsigned64 : Nat := 0xffffffffffffffff

end DaemonLaunch.Bounds
