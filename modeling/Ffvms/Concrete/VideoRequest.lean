/-
The request record that names a video, its URL syntax and its order.

`parseUrl` looks for the first occurrence of a prefix anywhere in the URL, as
`std::string::find` does.  The order compares the canonical text only, so that
two requests which differ in `repeatedly` or in the streaming mode are one key.
-/

import Mathlib.Data.String.Basic
import Ffvms.OrderedMap

namespace Ffvms.Concrete

/-- The enumeration has two named values.  A cast may store another one, which
the producer meets in the default branch of its switch. -/
inductive StreamingMode where
  | tcp
  | udp
  | unnamed (value : Nat)
  deriving DecidableEq, Repr

structure VideoRequest where
  useFile : Bool
  filename : String
  repeatedly : Bool
  useGb : Bool
  gbid : String
  gbStreamingMode : StreamingMode
  deriving DecidableEq, Repr

namespace VideoRequest

def filePrefix : String := "file/"

def gbPrefix : String := "gb/"

def repeatedlyFlag : String := "?repeatedly="

def unset : VideoRequest :=
  { useFile := false
    filename := ""
    repeatedly := false
    useGb := false
    gbid := ""
    gbStreamingMode := .udp }

def findText (pattern : List Char) : List Char → Option Nat
  | [] => if pattern = [] then some 0 else none
  | head :: rest =>
      if pattern.isPrefixOf (head :: rest) then some 0
      else (findText pattern rest).map (· + 1)

def find (text pattern : String) : Option Nat := findText pattern.toList text.toList

def substr (text : String) (position : Nat) : String :=
  String.ofList (text.toList.drop position)

def substrTo (text : String) (count : Nat) : String :=
  String.ofList (text.toList.take count)

def parseUrl (url : String) : VideoRequest :=
  match find url filePrefix with
  | some found =>
      let filename := substr url (found + filePrefix.length)
      match find filename repeatedlyFlag with
      | some flag =>
          let repeatedly := substr filename (flag + repeatedlyFlag.length)
          { unset with
            useFile := true
            repeatedly := repeatedly == "true"
            filename := substrTo filename flag }
      | none =>
          { unset with
            useFile := true
            filename := filename }
  | none =>
      match find url gbPrefix with
      | some found =>
          { unset with
            useGb := true
            gbid := substr url (found + gbPrefix.length) }
      | none => unset

def cmpStr (request : VideoRequest) : String :=
  if request.useFile then "file://" ++ request.filename
  else if request.useGb then "gb://" ++ request.gbid
  else ""

example : (parseUrl "rtsp://host/file/a.mp4?repeatedly=true").cmpStr = "file://a.mp4" := by
  decide

theorem cmpStr_toList (request : VideoRequest) :
    request.cmpStr.toList =
      if request.useFile then "file://".toList ++ request.filename.toList
      else if request.useGb then "gb://".toList ++ request.gbid.toList
      else [] := by
  unfold cmpStr
  split_ifs with isFile isGb
  · exact String.toList_append
  · exact String.toList_append
  · rfl

/-- The first character of the text tells what kind of request it is of. -/
theorem useFile_iff_head (request : VideoRequest) :
    request.useFile = true ↔ request.cmpStr.toList.head? = some 'f' := by
  rw [cmpStr_toList]
  split_ifs with isFile isGb <;> simp [isFile]

theorem useGb_iff_head (request : VideoRequest) (noFile : request.useFile = false) :
    request.useGb = true ↔ request.cmpStr.toList.head? = some 'g' := by
  rw [cmpStr_toList, noFile]
  split_ifs with isGb <;> simp_all

theorem useFile_congr {first second : VideoRequest} (same : first.cmpStr = second.cmpStr) :
    first.useFile = second.useFile := by
  rw [Bool.eq_iff_iff, useFile_iff_head, useFile_iff_head, same]

theorem useGb_congr {first second : VideoRequest} (same : first.cmpStr = second.cmpStr)
    (noFile : first.useFile = false) : first.useGb = second.useGb := by
  have noFile' : second.useFile = false := (useFile_congr same).symm.trans noFile
  rw [Bool.eq_iff_iff, useGb_iff_head first noFile, useGb_iff_head second noFile', same]

end VideoRequest

abbrev RequestMap (Value : Type) : Type := OrderedMap VideoRequest.cmpStr Value

end Ffvms.Concrete
