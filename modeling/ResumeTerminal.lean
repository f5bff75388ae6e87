import ResumeTerminal.Main
import ResumeTerminal.Proofs.Console.Screen
import ResumeTerminal.Proofs.Host.Editing
import ResumeTerminal.Proofs.Profile.Aliases
import ResumeTerminal.Proofs.Session.Overview
import ResumeTerminal.Proofs.Session.Recall
import ResumeTerminal.Proofs.Session.Recording
import ResumeTerminal.Proofs.Session.Reload
import ResumeTerminal.Proofs.Session.SingleRow
import ResumeTerminal.Proofs.Profile.Members
import ResumeTerminal.Proofs.Command.Dictionary
import ResumeTerminal.Proofs.Session.Interference
import ResumeTerminal.Proofs.Session.Spelling
import ResumeTerminal.Proofs.Toml.Document
import ResumeTerminal.Proofs.Config.Reading
import ResumeTerminal.Proofs.Alias.Definitions
import ResumeTerminal.Proofs.History.Walk
import ResumeTerminal.Proofs.Text.Idempotence
import ResumeTerminal.Proofs.Host.Clearing
import ResumeTerminal.Proofs.Command.Listing
import ResumeTerminal.Proofs.Command.Overview
import ResumeTerminal.Proofs.Profile.Persona
import ResumeTerminal.Proofs.Session.Introduction
import ResumeTerminal.Proofs.Page.Spellings
import ResumeTerminal.Proofs.Page.Experience
import ResumeTerminal.Proofs.Page.Projects
import ResumeTerminal.Proofs.Page.Skills
import ResumeTerminal.Proofs.Calendar
import ResumeTerminal.Proofs.Text.Digits
import ResumeTerminal.Proofs.Command.Numbering
import ResumeTerminal.Proofs.Timestamp
import ResumeTerminal.Proofs.Json.Writing
import ResumeTerminal.Proofs.Json.Shape.Map
import ResumeTerminal.Proofs.Json.Integer
import ResumeTerminal.Proofs.Profile.Scalar
