import AuthProfile.Db.Schema
import AuthProfile.Process.Wp
import Mathlib.Algebra.Order.Floor.Defs
import Mathlib.Data.Rat.Floor

set_option autoImplicit false

namespace AuthProfile

open Process

-- int(x): the fraction is cut off.
def toInt (x : ℚ) : Int := if 0 ≤ x then ⌊x⌋ else ⌈x⌉

-- The keys set with an expiry, each with the instant from which it is gone.
structure Redis where
  expiries : String → Option Time

namespace Redis

def empty : Redis := ⟨fun _ => none⟩

def set (redis : Redis) (name : String) (now : Time) (ex : Int) : Except Error Redis :=
  if 0 < ex then .ok ⟨Function.update redis.expiries name (some (now + ex))⟩
  else .error (.cache "invalid expire time in 'set' command")

def present (redis : Redis) (name : String) (now : Time) : Bool :=
  match redis.expiries name with
  | none => false
  | some expiry => now < expiry

theorem set_ok (redis : Redis) (name : String) (now : Time) (ex : Int) (positive : 0 < ex) :
    redis.set name now ex = .ok ⟨Function.update redis.expiries name (some (now + ex))⟩ := if_pos positive

end Redis

namespace TokenBlacklist

def keyPrefix : String := "auth:revoked_jti:"

def revoke (now : Time) (jti : String) (ttlSeconds : Int) : Prog Redis Error Unit :=
  Prog.atomic .connection fun redis => (redis.set (keyPrefix ++ jti) now ttlSeconds).map fun after => ((), after)

def isRevoked (now : Time) (jti : String) : Prog Redis Error Bool :=
  Prog.query .connection fun redis => redis.present (keyPrefix ++ jti) now

theorem key_injective (first second : String) (same : keyPrefix ++ first = keyPrefix ++ second) : first = second :=
  String.append_right_inj keyPrefix |>.mp same

end TokenBlacklist

end AuthProfile
