import GridSetup.Network.Construction

/-! # Building a network in stages

A stage goes on from the nodes of the last network that could be built: it
keeps all or some of them, adds nodes, attaches equipment, and builds a
network with branches and HVDC lines of its own. -/

namespace GridSetup

structure Attachment where
  node : String
  shunts : List Shunt := []
  generators : List Generator := []
  loads : List Load := []

structure Stage where
  /-- The nodes to keep, where not all are kept. -/
  keep : Option (List String) := none
  nodes : List Node := []
  attachments : List Attachment := []
  branches : List Branch := []
  hvdcLines : List HvdcLine := []

/-- The node with the equipment of an attachment. -/
def Attachment.attach (attachment : Attachment) (node : Node) : Node :=
  attachment.loads.foldl Node.withLoad <|
    attachment.generators.foldl Node.withGenerator <|
      node.withShunts attachment.shunts

/-- Attaches the equipment to the first node the attachment names, if there is
one. -/
def Attachment.attachFirst (nodes : List Node) (attachment : Attachment) : List Node :=
  match nodes with
  | [] => []
  | node :: rest =>
    if node.id = attachment.node then attachment.attach node :: rest
    else node :: attachFirst rest attachment

namespace Stage

/-- The nodes a stage builds with, given those of the network before it. -/
def nodesFrom (stage : Stage) (previous : List Node) : List Node :=
  let kept := match stage.keep with
    | none => previous
    | some ids => previous.filter fun node => ids.contains node.id
  stage.attachments.foldl Attachment.attachFirst (kept ++ stage.nodes)

/-- The outcome of one stage, given the nodes of the network before it. -/
def run (stage : Stage) (previous : List Node) : Except Fault Network :=
  Network.build (stage.nodesFrom previous) stage.branches stage.hvdcLines

/-- The outcomes of stages run one after the other. A stage that fails leaves
the nodes as they were. -/
def runAll (previous : List Node) : List Stage → List (Except Fault Network)
  | [] => []
  | stage :: rest =>
    match stage.run previous with
    | .ok network => .ok network :: runAll network.nodes rest
    | .error fault => .error fault :: runAll previous rest

end Stage
end GridSetup
