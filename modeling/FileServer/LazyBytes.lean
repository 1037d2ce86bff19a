import FileServer.Bytes

/-!
# Bytes that are made when they are looked at

A file may be far larger than what is ever read of it, and a buffer than what is ever written
from it. `LazyBytes` are as many bytes as they say, and which ones is only found out when
somebody asks (`LazyBytes.toBytes`).
-/

namespace FileServer

/-- Bytes whose number is known before they are made. -/
structure LazyBytes where
  length : Nat
  deferred : Thunk Bytes
  length_deferred : deferred.get.length = length

namespace LazyBytes

/-- The bytes themselves. -/
def toBytes (b : LazyBytes) : Bytes := b.deferred.get

/-- Bytes that have been made. -/
def ofBytes (bs : Bytes) : LazyBytes := ⟨bs.length, .pure bs, rfl⟩

instance : Coe Bytes LazyBytes := ⟨ofBytes⟩

instance : Repr LazyBytes := ⟨fun b => reprPrec b.toBytes⟩

/-- So many zeros. -/
def zeros (n : Nat) : LazyBytes := ⟨n, .mk fun _ => List.replicate n 0, List.length_replicate⟩

@[simp] theorem length_toBytes (b : LazyBytes) : b.toBytes.length = b.length := b.length_deferred

@[simp] theorem toBytes_ofBytes (bs : Bytes) : (ofBytes bs).toBytes = bs := rfl

@[simp] theorem length_ofBytes (bs : Bytes) : (ofBytes bs).length = bs.length := rfl

@[simp] theorem length_zeros (n : Nat) : (zeros n).length = n := rfl

/-- Nothing but the bytes tells one from another. -/
@[ext] theorem ext {a b : LazyBytes} (h : a.toBytes = b.toBytes) : a = b := by
  have hlength : a.length = b.length := by rw [← length_toBytes, h, length_toBytes]
  obtain ⟨m, x, hx⟩ := a
  obtain ⟨n, y, hy⟩ := b
  obtain rfl : m = n := hlength
  obtain rfl : x = y := Thunk.ext h
  rfl

/-! ### Parts and changes -/

/-- The bytes in a range, as far as there are any. -/
def slice (b : LazyBytes) (offset count : Nat) : LazyBytes where
  length := min count (b.length - offset)
  deferred := .mk fun _ => (b.toBytes.drop offset).take count
  length_deferred := by
    change ((b.toBytes.drop offset).take count).length = _
    rw [List.length_take, List.length_drop, length_toBytes]

/-- The bytes with others in place of their first ones. -/
def overwrite (b part : LazyBytes) : LazyBytes where
  length := max part.length b.length
  deferred := .mk fun _ => part.toBytes ++ b.toBytes.drop part.length
  length_deferred := by
    change (part.toBytes ++ b.toBytes.drop part.length).length = _
    rw [List.length_append, List.length_drop, length_toBytes, length_toBytes]
    omega

/-- The bytes, filled up with zeros to so many at least. -/
def widen (b : LazyBytes) (n : Nat) : LazyBytes where
  length := max b.length n
  deferred := .mk fun _ => b.toBytes ++ List.replicate (n - b.length) 0
  length_deferred := by
    change (b.toBytes ++ List.replicate (n - b.length) 0).length = _
    rw [List.length_append, List.length_replicate, length_toBytes]
    omega

@[simp] theorem toBytes_slice (b : LazyBytes) (offset count : Nat) :
    (b.slice offset count).toBytes = (b.toBytes.drop offset).take count := rfl

@[simp] theorem toBytes_overwrite (b part : LazyBytes) :
    (b.overwrite part).toBytes = part.toBytes ++ b.toBytes.drop part.length := rfl

@[simp] theorem toBytes_widen (b : LazyBytes) (n : Nat) :
    (b.widen n).toBytes = b.toBytes ++ List.replicate (n - b.length) 0 := rfl

end LazyBytes

end FileServer
