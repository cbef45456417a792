import MutationTesting.Shell.Utility.Request

/-!
# Redirections

A redirection lets a stream lead elsewhere: to or from a file or a device, to where another stream
leads, or nowhere because it is closed.
-/

namespace MutationTesting.Shell

/-- Why a redirection cannot be set up. -/
inductive RedirectFault where
  /-- The command fails. -/
  | failed (text : String)
  /-- The script cannot be understood. -/
  | senseless (text : String)

/-- Why a file cannot be opened. -/
def openFault (creates : Bool) (target : String) (reason : IoError) : RedirectFault :=
  let why := match reason with
    | .notFound => if creates then "Directory nonexistent" else "No such file"
    | .notDirectory => if creates then "Directory nonexistent" else "No such file"
    | reason => Utility.ioText reason
  .failed ((if creates then "cannot create " else "cannot open ") ++ target ++ ": " ++ why)

/-- Where a device leads, if a path names one. -/
def device? (st : State) (path : String) : Option Sink :=
  match path with
  | "/dev/null" => some .nowhere
  | "/dev/stdin" => some (st.sink 0)
  | "/dev/stdout" => some (st.sink 1)
  | "/dev/stderr" => some (st.sink 2)
  | _ =>
    if path.startsWith "/dev/fd/" then (digits? (path.drop 8).toString.toList).map st.sink
    else none

/-- How a file is opened for writing. -/
inductive Opening where
  /-- It is emptied. -/
  | empty
  /-- It is made. -/
  | make
  /-- It is kept, or made. -/
  | keep

/-- Opens a file for writing. -/
def openOutput (how : Opening) (target : String) (st : State) :
    Except RedirectFault (State × Sink) :=
  match device? st target with
  | some sink => .ok (st, sink)
  | none =>
    let isThere := match st.find target with
      | .ok .directory => false
      | .ok _ => true
      | .error _ => false
    let opened : Except IoError State :=
      match isThere, how with
      | true, .keep => .ok st
      | true, .make => .error .alreadyExists
      | _, _ => st.writeFile target ""
    match opened with
    | .error reason => .error (openFault true target reason)
    | .ok st =>
      match st.place target with
      | .ok place => .ok (st, .file place)
      | .error reason => .error (openFault true target reason)

/-- Opens a file for reading. -/
def openSource (stream : Nat) (target : String) (st : State) : Except RedirectFault State :=
  match device? st target with
  | some sink => .ok (st.redirect stream sink)
  | none =>
    if target == "/dev/zero" then
      .ok (st.feed stream { rest := List.replicate Utility.endlessBytes '\x00' })
    else match st.readFile target with
      | .ok text => .ok (st.feed stream { rest := text.toList, fileSize? := some text.length })
      | .error .isDirectory => .ok (st.redirect stream .nowhere)
      | .error .invalidText => .ok (st.redirect stream .nowhere)
      | .error reason => .error (openFault false target reason)

/-- The state with a stream that leads where another one does, or that is closed. -/
def duplicate (stream : Nat) (target : String) (st : State) : Except RedirectFault State :=
  match target.toList with
  | ['-'] => .ok (st.close stream)
  | [c] =>
    if c.isDigit then
      match st.sinks.lookup (c.toNat - '0'.toNat) with
      | some sink => .ok (st.redirect stream sink)
      | none => .error (.failed (target ++ ": Bad file descriptor"))
    else .error (.senseless "Syntax error: Bad fd number")
  | _ => .error (.senseless "Syntax error: Bad fd number")

/-- The state after a redirection to a target, or why it cannot be set up. -/
def redirectTo (r : Redirect) (target : String) (st : State) : Except RedirectFault State :=
  let output (how : Opening) : Except RedirectFault State :=
    (openOutput how target st).map fun (st, sink) => st.redirect r.stream sink
  match r.kind with
  | .document => .ok (st.feed r.stream { rest := target.toList })
  | .input => openSource r.stream target st
  | .output => output (if st.options.keepsFiles then .make else .empty)
  | .overwrite => output .empty
  | .append => output .keep
  | .both => (output .keep).bind (openSource r.stream target)
  | .duplicate => duplicate r.stream target st

/-- The state with the streams of another one. -/
def restore (before after : State) : State :=
  { after with sinks := before.sinks, sources := State.olderSources before after }

end MutationTesting.Shell
