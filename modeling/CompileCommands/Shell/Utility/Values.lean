import CompileCommands.Shell.Utility.Lines

/-!
# Programs that compute values

Names of files, sequences of numbers and texts in another coding.
-/

namespace CompileCommands.Shell.Utility

/-! ## Names and numbers -/

/-- Write the last components of paths. -/
def printBaseNames (title : String) (arguments : List String) : ShellTask Unit := do
  let orders ← ordersOf title
    [⟨'a', "multiple", false⟩, ⟨'s', "suffix", true⟩, ⟨'z', "zero", false⟩] arguments
  let base (suffix path : String) : String :=
    let name := baseName path
    if suffix ≠ "" ∧ name ≠ suffix ∧ name.endsWith suffix then
      String.ofList (name.toList.take (name.length - suffix.length))
    else name
  match orders.value? 's', orders.operands with
  | _, [] => refuseUsage title "missing operand"
  | some suffix, paths => print (ofLines (paths.map (base suffix)))
  | none, paths =>
    if orders.has 'a' then print (ofLines (paths.map (base "")))
    else
      match paths with
      | _ :: _ :: extra :: _ => refuseUsage title ("extra operand " ++ named extra)
      | path :: suffix => print (base (suffix.headD "") path ++ "\n")
      | [] => return
  finish 0

/-- Write paths without their last components. -/
def printDirectoryNames (title : String) (arguments : List String) : ShellTask Unit := do
  let orders ← ordersOf title [⟨'z', "zero", false⟩] arguments
  if orders.operands.isEmpty then refuseUsage title "missing operand"
  print (ofLines (orders.operands.map directoryName))
  finish 0

/-- The integer that a text is. -/
def integer? (text : String) : Option Int :=
  match text.toList with
  | '-' :: rest => if rest.all Char.isDigit then (String.ofList rest).toNat?.map (-·) else none
  | all => if all.all Char.isDigit then text.toNat?.map fun n => (n : Int) else none

/-- The numbers from one to another in steps. -/
def numbersFrom (step last : Int) : (count : Nat) → Int → List Int
  | 0, _ => []
  | n + 1, value =>
    if (0 < step ∧ last < value) ∨ (step < 0 ∧ value < last) then []
    else value :: numbersFrom step last n (value + step)

/-- Write a sequence of numbers. -/
def sequence (title : String) (arguments : List String) : ShellTask Unit := do
  let rec split (separator : String) (wide : Bool) : List String →
      String × Bool × List String
    | "-s" :: text :: rest => split text wide rest
    | "-w" :: rest => split separator true rest
    | argument :: rest =>
      if argument.startsWith "-s" then
        split (String.ofList (argument.toList.drop 2)) wide rest
      else (separator, wide, argument :: rest)
    | [] => (separator, wide, [])
  let (separator, wide, operands) := split "\n" false arguments
  let numbers ← operands.mapM fun text => do
    match integer? text with
    | some n => return n
    | none => refuseUsage title ("invalid floating point argument: " ++ named text)
  let write (first step last : Int) : ShellTask Unit := do
    if step = 0 then refuseUsage title ("invalid Zero increment value: " ++ named "0")
    let found := (numbersFrom step last ((last - first).natAbs / step.natAbs + 1) first).map
      (toString ·)
    let width := (found.map String.length).foldl max 0
    let shown := found.map fun text =>
      if wide then
        let (sign, digits) :=
          if text.startsWith "-" then ("-", text.toList.drop 1) else ("", text.toList)
        sign ++ String.ofList
          (List.replicate (width - sign.length - digits.length) '0' ++ digits)
      else text
    if shown ≠ [] then print (separator.intercalate shown ++ "\n")
    finish 0
  match numbers with
  | [last] => write 1 1 last
  | [first, last] => write first 1 last
  | [first, step, last] => write first step last
  | [] => refuseUsage title "missing operand"
  | _ => refuseUsage title ("extra operand " ++ named (operands.getLastD ""))

/-! ## Text in base 64 -/

/-- The digits in base 64. -/
def digits64 : List Char :=
  "ABCDEFGHIJKLMNOPQRSTUVWXYZabcdefghijklmnopqrstuvwxyz0123456789+/".toList

/-- Some octets in base 64. -/
def encode64 : List Char → List Char
  | a :: b :: c :: rest =>
    let n := 65536 * a.toNat + 256 * b.toNat + c.toNat
    [18, 12, 6, 0].map (fun shift => digits64.getD (n >>> shift % 64) 'A') ++ encode64 rest
  | [a, b] =>
    let n := 65536 * a.toNat + 256 * b.toNat
    [18, 12, 6].map (fun shift => digits64.getD (n >>> shift % 64) 'A') ++ ['=']
  | [a] =>
    [18, 12].map (fun shift => digits64.getD ((65536 * a.toNat) >>> shift % 64) 'A') ++ ['=', '=']
  | [] => []

/-- The octets that some digits in base 64 stand for. -/
def decode64 : List Nat → List Char
  | a :: b :: c :: d :: rest =>
    let n := 262144 * a + 4096 * b + 64 * c + d
    [16, 8, 0].map (fun shift => Char.ofNat (n >>> shift % 256)) ++ decode64 rest
  | [a, b, c] =>
    let n := 262144 * a + 4096 * b + 64 * c
    [16, 8].map fun shift => Char.ofNat (n >>> shift % 256)
  | [a, b] => [Char.ofNat ((262144 * a + 4096 * b) >>> 16 % 256)]
  | _ => []

/-- Text in lines of some length. -/
def wrapped (width : Nat) : (count : Nat) → List Char → List Char
  | 0, _ => []
  | n + 1, cs =>
    if cs = [] then []
    else cs.take width ++ '\n' :: wrapped width n (cs.drop width)

/-- Put text into base 64, or take it out. -/
def base64 (title : String) (arguments : List String) : ShellTask Unit := do
  let orders ← ordersOf title
    [⟨'d', "decode", false⟩, ⟨'i', "ignore-garbage", false⟩, ⟨'w', "wrap", true⟩] arguments
  let width := ((orders.value? 'w').bind String.toNat?).getD 76
  transform title orders.operands fun text =>
    if orders.has 'd' then
      String.ofList (decode64 (text.toList.filterMap (digits64.idxOf? ·)))
    else
      let cs := encode64 text.toList
      String.ofList (if width = 0 then cs else wrapped width (cs.length + 1) cs)

end CompileCommands.Shell.Utility
