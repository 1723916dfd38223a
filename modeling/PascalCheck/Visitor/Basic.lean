import PascalCheck.Shape.Walk
import PascalCheck.Visitor.Form

/-!
Visitors of trees. A visitor has methods for some classes of node. The method of a class that can
have parts is run before them and says whether the visit goes on to them, and to another method after
them; a method may as well see to the parts itself. Where a visitor has no method, it is told that
the node was not handled, and the visit goes on.
-/

namespace PascalCheck

structure Visitor (m : Type → Type) where
  pre? : Info → Form (m Unit) → Option (m Bool)
  post? : Info → Form (m Unit) → Option (m Unit)
  leaf? : Info → Form (m Unit) → Option (m Unit)
  unhandled : Phase → Landmark → m Unit

namespace Visitor

variable {m : Type → Type} [Monad m]

def visit (v : Visitor m) (info : Info) (form : Form (m Unit)) : m Unit :=
  if form.nodeClass.isLeaf then
    (v.leaf? info form).getD (v.unhandled .leaf (form.mark info))
  else do
    let goesOn ← (v.pre? info form).getD do
      v.unhandled .enter (form.mark info)
      return true
    if goesOn then
      form.parts.forM id
      (v.post? info form).getD (v.unhandled .leave (form.mark info))

abbrev Recording := StateM (List Event)

def record (phase : Phase) (mark : Landmark) : Recording Unit :=
  modify (· ++ [⟨phase, mark⟩])

def observer : Visitor Recording where
  pre? _ _ := none
  post? _ _ := none
  leaf? _ _ := none
  unhandled := record

def pruner (skipped : NodeClass → Bool) : Visitor Recording where
  pre? info form := some do
    if skipped form.nodeClass then
      record .skip (form.mark info)
      return false
    else
      record .enter (form.mark info)
      return true
  post? info form := some (record .leave (form.mark info))
  leaf? _ _ := none
  unhandled _ _ := return ()

def recorded (visit : Recording Unit) : List Event :=
  (visit.run []).2

end Visitor

end PascalCheck
