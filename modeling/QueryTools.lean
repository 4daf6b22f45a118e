import QueryTools.Main
import QueryTools.Proofs.Contents
import QueryTools.Proofs.Listing
import QueryTools.Proofs.Posting
import QueryTools.Proofs.Shape.Conformance
import QueryTools.Proofs.Shape.Restriction
import QueryTools.Proofs.Tool.Restriction
import QueryTools.Proofs.Judging
import QueryTools.Proofs.Building
import QueryTools.Schema.SelfDescription
import QueryTools.Proofs.Language.Numerals
import QueryTools.Proofs.Language.Blocks
import QueryTools.Proofs.Language.Strings
import QueryTools.Proofs.Language.Constants
import QueryTools.Proofs.Language.Tokens
import QueryTools.Proofs.Schema.Tellable
import QueryTools.Proofs.Schema.SelfDescription
import QueryTools.Proofs.Schema.Retelling
import QueryTools.Proofs.Tool.Retelling
import QueryTools.Proofs.Shape.Forgetting
import QueryTools.Proofs.Tool.Reaching
import QueryTools.Proofs.Shape.Adding
import QueryTools.Proofs.Tool.Requiring
import QueryTools.Proofs.Input.Defaults
import QueryTools.Proofs.Tool.Defaults
import QueryTools.Proofs.Shape.Recovery
import QueryTools.Proofs.Connections
import QueryTools.Proofs.Rebuilding
import QueryTools.Proofs.Text.Utf8
import QueryTools.Proofs.SchemaFiles
import QueryTools.Proofs.Levels
import QueryTools.Proofs.Settings.Sources
import QueryTools.Proofs.Settings.Arguments
import QueryTools.Proofs.Settings.Reading
import QueryTools.Proofs.Settings.Shielding
import QueryTools.Proofs.Settings.Headers
