
namespace ImportHooks

abbrev Text := List Char

namespace Text

def utf8 (text : Text) : List UInt8 := text.flatMap String.utf8EncodeChar

def utf8Length (text : Text) : Nat := text.foldr (fun c n => c.utf8Size + n) 0

def isContinuation (b : UInt8) : Bool := 0x80 ≤ b && b ≤ 0xBF

-- The scalar value spelled by payload bits, refused when a shorter spelling
-- exists (below `least`) or when the value is a surrogate or too large.
def scalar? (least value : Nat) : Option Char :=
  if value.isValidChar && least ≤ value then some (Char.ofNat value) else none

def ofUtf8? : List UInt8 → Option Text
  | [] => some []
  | a :: rest =>
    if a < 0x80 then (ofUtf8? rest).map (Char.ofNat a.toNat :: ·)
    else match rest with
      | [] => none
      | b :: rest =>
        if !isContinuation b || a < 0xC2 then none
        else if a < 0xE0 then do
          let c ← scalar? 0x80 ((a.toNat - 0xC0) * 64 + (b.toNat - 0x80))
          (ofUtf8? rest).map (c :: ·)
        else match rest with
          | [] => none
          | d :: rest =>
            if !isContinuation d then none
            else if a < 0xF0 then do
              let c ← scalar? 0x800 (((a.toNat - 0xE0) * 64 + (b.toNat - 0x80)) * 64 + (d.toNat - 0x80))
              (ofUtf8? rest).map (c :: ·)
            else match rest with
              | [] => none
              | e :: rest =>
                if !isContinuation e || 0xF4 < a then none
                else do
                  let c ← scalar? 0x10000
                    ((((a.toNat - 0xF0) * 64 + (b.toNat - 0x80)) * 64 + (d.toNat - 0x80)) * 64 + (e.toNat - 0x80))
                  (ofUtf8? rest).map (c :: ·)

@[simp] theorem utf8Length_nil : utf8Length [] = 0 := rfl
@[simp] theorem utf8Length_cons (c : Char) (text : Text) :
    utf8Length (c :: text) = c.utf8Size + utf8Length text := rfl
@[simp] theorem utf8Length_append (left right : Text) :
    utf8Length (left ++ right) = utf8Length left + utf8Length right := by
  induction left with
  | nil => simp
  | cons c left ih => simp [ih, Nat.add_assoc]
@[simp] theorem utf8Length_reverse (text : Text) : utf8Length text.reverse = utf8Length text := by
  induction text with
  | nil => rfl
  | cons c text ih => simp [ih, Nat.add_comm]
@[simp] theorem utf8_append (left right : Text) : utf8 (left ++ right) = utf8 left ++ utf8 right := by
  simp [utf8]

end Text
end ImportHooks
